import Mathlib.Algebra.Group.Nat.Even
import Mathlib.Data.List.DropRight
import Mathlib.Order.Bounds.Basic
import ProfileLexer.Profile.Builtin
import ProfileLexer.Proofs.Automaton.Symbols
import ProfileLexer.Proofs.Scan.Forms

/-!
Where strings end. The scanner skips what a backslash takes with it and the automaton remembers that
it is behind one; both end a string at its first quote with an even number of backslashes in front.
-/

namespace ProfileLexer

def Text.backslashes (text : List Char) : Nat :=
  (text.rtakeWhile (· == '\\')).length

theorem Text.backslashes_concat (text : List Char) (c : Char) :
    backslashes (text ++ [c]) = if c = '\\' then backslashes text + 1 else 0 := by
  rw [backslashes, List.rtakeWhile_concat]
  by_cases escape : c = '\\'
  · rw [if_pos escape, if_pos (beq_iff_eq.mpr escape), List.length_append, List.length_singleton,
      backslashes]
  · rw [if_neg escape, if_neg (by rwa [beq_iff_eq]), List.length_nil]

/-- Behind `n` characters of a string stands a quote that is not escaped: all backslashes right in
front of it, counted from the opening quote on, escape each other. Neither scanner nor automaton
counts them. -/
def Unescaped (quote : Char) (body : List Char) (n : Nat) : Prop :=
  body[n]? = some quote ∧ Even (Text.backslashes (body.take n))

instance (quote : Char) (body : List Char) (n : Nat) : Decidable (Unescaped quote body n) :=
  inferInstanceAs (Decidable (_ ∧ _))

/-- A scan of a string that has passed `front`: what comes next is not escaped, and no quote that it
has passed ends the string. Other quotes may have been passed. -/
structure StringReach (quote : Char) (body front rest : List Char) : Prop where
  split : body = front ++ rest
  even : Even (Text.backslashes front)
  first : ∀ n, Unescaped quote body n → front.length ≤ n

namespace StringReach

variable {quote c : Char} {body front rest : List Char}

theorem start (quote : Char) (body : List Char) : StringReach quote body [] body :=
  ⟨rfl, ⟨0, rfl⟩, fun n _ => Nat.zero_le n⟩

theorem unescaped_iff (reach : StringReach quote body front rest) :
    Unescaped quote body front.length ↔ rest.head? = some quote := by
  rw [Unescaped, reach.split, List.take_left, List.getElem?_append_right (Nat.le_refl _),
    Nat.sub_self, ← List.head?_eq_getElem?]
  exact and_iff_left reach.even

theorem first_succ (reach : StringReach quote body front (c :: rest)) (other : c ≠ quote) {n : Nat}
    (unescaped : Unescaped quote body n) : front.length + 1 ≤ n := by
  refine Nat.lt_of_le_of_ne (reach.first n unescaped) fun here => other ?_
  subst here
  exact Option.some.inj (reach.unescaped_iff.mp unescaped)

theorem plain (reach : StringReach quote body front (c :: rest)) (other : c ≠ quote)
    (noEscape : c ≠ '\\') : StringReach quote body (front ++ [c]) rest where
  split := reach.split.trans (List.append_cons front c rest)
  even := by
    rw [Text.backslashes_concat, if_neg noEscape]
    exact ⟨0, rfl⟩
  first n unescaped := by
    rw [List.length_append, List.length_singleton]
    exact reach.first_succ other unescaped

/-- A backslash takes the next character with it: a quote there has an odd number of backslashes in
front, and another backslash makes their number even. A quote that is a backslash would end the
string here. -/
theorem escape (solid : quote ≠ '\\') (reach : StringReach quote body front ('\\' :: c :: rest)) :
    StringReach quote body (front ++ ['\\'] ++ [c]) rest := by
  have behind : Text.backslashes (front ++ ['\\']) = Text.backslashes front + 1 := by
    rw [Text.backslashes_concat, if_pos rfl]
  have odd : ¬Even (Text.backslashes (front ++ ['\\'])) := by
    rw [behind, Nat.even_add_one, not_not]
    exact reach.even
  have split : body = front ++ ['\\'] ++ [c] ++ rest := by
    rw [reach.split, List.append_assoc, List.append_assoc]
    rfl
  refine ⟨split, ?_, fun n unescaped => ?_⟩
  · rw [Text.backslashes_concat]
    split
    · rw [Nat.even_add_one]
      exact odd
    · exact ⟨0, rfl⟩
  · have notHere := reach.first_succ solid.symm unescaped
    have notNext : n ≠ front.length + 1 := by
      rintro rfl
      have taken : body.take (front.length + 1) = front ++ ['\\'] := by
        rw [split, List.append_assoc]
        exact List.take_left' List.length_append
      exact odd (taken ▸ unescaped.2)
    simp only [List.length_append, List.length_singleton]
    omega

theorem not_unescaped (reach : StringReach quote body front []) (n : Nat) :
    ¬Unescaped quote body n := by
  intro unescaped
  have within := reach.first n unescaped
  have inside := (List.getElem?_eq_some_iff.mp unescaped.1).1
  rw [reach.split, List.append_nil] at inside
  omega

theorem isLeast (reach : StringReach quote body front (quote :: rest)) :
    IsLeast {n | Unescaped quote body n} front.length :=
  ⟨reach.unescaped_iff.mpr rfl, reach.first⟩

/-- From wherever the scan stands, the string reaches to the first quote that is not escaped, and to
the end of the text if there is none. The induction is on what is left, one character or one escape
at a time. -/
theorem ofString_eq (solid : quote ≠ '\\') {passed here : Nat}
    (reach : StringReach quote body front rest) (place : here = passed + front.length) :
    (∃ n, IsLeast {n | Unescaped quote body n} n ∧
      Extent.ofString quote here rest = ⟨passed + n + 1, true⟩) ∨
    (∀ n, ¬Unescaped quote body n) ∧
      Extent.ofString quote here rest = ⟨passed + body.length, false⟩ := by
  induction here, rest using Extent.ofString.induct quote generalizing front with
  | case1 here =>
    refine .inr ⟨reach.not_unescaped, ?_⟩
    rw [reach.split, List.append_nil, ← place, Extent.ofString]
  | case2 here c =>
    rw [Extent.ofString]
    by_cases ends : c = quote
    · subst ends
      refine .inl ⟨_, reach.isLeast, ?_⟩
      rw [place, bne_iff_ne.mpr solid, beq_self_eq_true, Bool.true_and]
    · have whole : body.length = front.length + 1 := by
        rw [reach.split, List.length_append, List.length_singleton]
      refine .inr ⟨fun n unescaped => ?_, ?_⟩
      · have within := reach.first_succ ends unescaped
        have inside := (List.getElem?_eq_some_iff.mp unescaped.1).1
        omega
      · rw [place, whole, beq_eq_false_iff_ne.mpr ends, Bool.and_false, Nat.add_assoc]
  | case3 here c next rest escape ih =>
    obtain rfl := eq_of_beq escape
    rw [Extent.ofString, if_pos escape]
    refine ih (reach.escape solid) ?_
    simp only [place, List.length_append, List.length_singleton, Nat.add_assoc]
  | case4 here c next rest plain ends =>
    obtain rfl := eq_of_beq ends
    refine .inl ⟨_, reach.isLeast, ?_⟩
    rw [Extent.ofString, if_neg plain, if_pos ends, place]
  | case5 here c next rest plain inside ih =>
    rw [Extent.ofString, if_neg plain, if_neg inside]
    rw [beq_iff_eq] at plain inside
    refine ih (reach.plain inside plain) ?_
    simp only [place, List.length_append, List.length_singleton, Nat.add_assoc]

end StringReach

namespace Machine

variable {machine : Machine} {quote : Char}

/-- A string ends behind its first quote that is not escaped, for scanner and automaton alike;
without such a quote it is open and reaches to the end of the text. Every quote of a language does
this that is no backslash and no blank, whatever other quotes the string has inside. The profile
need not be accepted, and the machine may have been used before. -/
theorem string_ends_at_first_unescaped (quoted : machine.profile.isQuote quote = true)
    (noEscape : quote ≠ '\\') (solid : isLayout quote = false) (body : List Char) :
    ∃ extent, machine.profile.stringExtent? (quote :: body) = some extent ∧
      (extent.closed = true ↔ ∃ n, Unescaped quote body n) ∧
      (∀ n, IsLeast {n | Unescaped quote body n} n → extent.length = n + 2) ∧
      (extent.closed = false → extent.length = (quote :: body).length) ∧
      (machine.classify (quote :: body)).1 =
        if extent.closed = true ∧ extent.length = (quote :: body).length then some .string
        else none := by
  refine ⟨_, Profile.stringExtent?_of_quote quoted body, ?_⟩
  have same : machine.profile = (ofProfile machine.profile).profile := rfl
  rw [classify_congr same, Profile.classify_ofProfile, Profile.kindFrom?_quote quoted solid]
  have place : 1 = 1 + ([] : List Char).length := rfl
  rcases (StringReach.start quote body).ofString_eq noEscape place with
    ⟨n, least, ends⟩ | ⟨nowhere, reaches⟩
  · rw [ends]
    refine ⟨iff_of_true rfl ⟨n, least.1⟩, fun other otherLeast => ?_, fun open_ => ?_, ?_⟩
    · obtain rfl := otherLeast.unique least
      show 1 + other + 1 = other + 2
      omega
    · cases open_
    · simp only [Extent.mk.injEq, and_true, true_and]
  · rw [reaches]
    refine ⟨iff_of_false Bool.false_ne_true fun ⟨n, ends⟩ => nowhere n ends, fun n least => ?_,
      fun _ => ?_, ?_⟩
    · exact absurd least.1 (nowhere n)
    · exact Nat.add_comm 1 body.length
    · simp only [Extent.mk.injEq, Bool.false_eq_true, and_false, false_and]

/-- Three backslashes escape a quote and two do not: the string ends behind the second one of these
quotes. It is accepted as long as nothing follows. -/
theorem string_ends_behind_two_backslashes :
    let machine := Machine.ofProfile (Profile.build Builtin.imperative)
    let body := ['a', '\\', '\\', '\\', '"', '\'', '\\', '\\', '"']
    machine.profile.isQuote '"' = true ∧ '"' ≠ '\\' ∧ isLayout '"' = false ∧
      IsLeast {n | Unescaped '"' body n} 8 ∧
      machine.profile.stringExtent? ('"' :: body) = some ⟨10, true⟩ ∧
      (machine.classify ('"' :: body)).1 = some .string ∧
      (machine.classify ('"' :: (body ++ ['c']))).1 = none := by
  intro machine body
  have quoted : machine.profile.isQuote '"' = true := by decide
  have noEscape : '"' ≠ '\\' := by decide
  have solid : isLayout '"' = false := by decide
  have early : ∀ n < 8, ¬Unescaped '"' body n ∧ ¬Unescaped '"' (body ++ ['c']) n := by
    decide +kernel
  have least : IsLeast {n | Unescaped '"' body n} 8 :=
    ⟨by decide +kernel, fun n ends => not_lt.mp fun before => (early n before).1 ends⟩
  have stillLeast : IsLeast {n | Unescaped '"' (body ++ ['c']) n} 8 :=
    ⟨by decide +kernel, fun n ends => not_lt.mp fun before => (early n before).2 ends⟩
  obtain ⟨⟨length, closed⟩, found, isClosed, reach, _, kind⟩ :=
    string_ends_at_first_unescaped quoted noEscape solid body
  obtain rfl : closed = true := isClosed.mpr ⟨8, least.1⟩
  obtain rfl : length = 10 := reach 8 least
  obtain ⟨longer, _, _, reach, _, longerKind⟩ :=
    string_ends_at_first_unescaped quoted noEscape solid (body ++ ['c'])
  rw [reach 8 stillLeast] at longerKind
  exact ⟨quoted, noEscape, solid, least, found, kind, longerKind.trans (if_neg (by simp [body]))⟩

end Machine

end ProfileLexer
