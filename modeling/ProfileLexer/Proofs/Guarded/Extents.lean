import ProfileLexer.Proofs.Guarded.Cursor
import ProfileLexer.Proofs.Scan.Forms

/-!
The reach of strings, comments and literals, found with a cursor and in bytes. No cut falls inside a
character, no depth falls below zero, and every search ends.
-/

namespace ProfileLexer

/-- A reach in characters, in bytes. Whether it is closed does not depend on how it is counted. -/
def Extent.inBytes (text : List Char) (extent : Extent) : Extent :=
  ⟨Text.byteLength (text.take extent.length), extent.closed⟩

theorem Extent.inBytes_append (front rest : List Char) (closed : Bool) :
    inBytes (front ++ rest) ⟨front.length, closed⟩ = ⟨Text.byteLength front, closed⟩ := by
  rw [inBytes, List.take_left]

namespace Guarded

/-- Whether a string lead and a quote behind it come first. -/
def leadsQuote (profile : Profile) (text lead : List Char) : Guarded Bool := do
  if lead.isPrefixOf text then
    let rest ← Text.behind? text (Text.byteLength lead)
    return (rest.head?.map profile.isQuote).getD false
  else return false

/-- A cursor in front of the quote of a string, with or without a lead. A quote at the start of the
text comes before any lead. -/
def stringStart (profile : Profile) (text : List Char) : Guarded (Option Cursor) := do
  let cursor := Cursor.ofText text
  if ((← cursor.peek).map profile.isQuote).getD false then return some cursor
  else
    match ← profile.stringLeads.findM? (leadsQuote profile text) with
    | none => return none
    | some lead =>
      let (_, cursor) ← cursor.eat lead
      return some cursor

/-- Passes the next part of a string, which is a character or an escape, up to its end. An escape
may have nothing behind it. -/
def stringRound (quote : Char) (cursor : Cursor) : Guarded (Cursor ⊕ (Bool × Cursor)) := do
  match ← cursor.bump with
  | (none, cursor) => return .inr (false, cursor)
  | (some c, cursor) =>
    if c == '\\' then
      let (_, cursor) ← cursor.bump
      return .inl cursor
    else if c == quote then return .inr (true, cursor)
    else return .inl cursor

noncomputable def stringBody (quote : Char) (cursor : Cursor) : Guarded (Bool × Cursor) :=
  loop (stringRound quote) cursor

/-- Passes the next part of a block comment at a nesting depth, which is a marker or a character, up
to the end of the comment. The depth is taken down where a marker closes a comment. -/
def commentRound (markers : BlockMarkers) :
    Nat × Cursor → Guarded ((Nat × Cursor) ⊕ (Nat × Cursor))
  | (depth, cursor) => do
    if cursor.atEnd then return .inr (depth, cursor)
    else
      let (opens, cursor) ← cursor.eatIf markers.nesting markers.opener
      if opens then return .inl (depth + 1, cursor)
      else
        let (closes, cursor) ← cursor.eat markers.closer
        if closes then
          let depth ← sub depth 1
          return if depth = 0 then .inr (depth, cursor) else .inl (depth, cursor)
        else
          let (_, cursor) ← cursor.bump
          return .inl (depth, cursor)

/-- Passes the rest of a block comment at a nesting depth, and gives the depth at its end. It is
zero if the comment is closed. -/
noncomputable def commentBody (markers : BlockMarkers) (depth : Nat) (cursor : Cursor) :
    Guarded (Nat × Cursor) :=
  loop (commentRound markers) (depth, cursor)

/-- Passes the next character of a list inside some brackets, up to the end of the list. -/
def listRound : Nat × Cursor → Guarded ((Nat × Cursor) ⊕ (Bool × Cursor))
  | (depth, cursor) => do
    match ← cursor.bump with
    | (none, cursor) => return .inr (false, cursor)
    | (some c, cursor) =>
      if c == '(' then return .inl (depth + 1, cursor)
      else if c == ')' then
        let depth ← sub depth 1
        return if depth = 0 then .inr (true, cursor) else .inl (depth, cursor)
      else return .inl (depth, cursor)

noncomputable def listBody (depth : Nat) (cursor : Cursor) : Guarded (Bool × Cursor) :=
  loop listRound (depth, cursor)

noncomputable def stringExtent (profile : Profile) (text : List Char) : Guarded (Option Extent) := do
  match ← stringStart profile text with
  | none => return none
  | some cursor =>
    match ← cursor.bump with
    | (none, _) => return none
    | (some quote, cursor) =>
      let (closed, cursor) ← stringBody quote cursor
      return some ⟨cursor.passed, closed⟩

noncomputable def commentExtent (profile : Profile) (text : List Char) : Guarded (Option Extent) := do
  match profile.blockComment with
  | none => return none
  | some markers =>
    let (opens, cursor) ← (Cursor.ofText text).eat markers.opener
    if opens then
      let (depth, cursor) ← commentBody markers 1 cursor
      return some ⟨cursor.passed, depth == 0⟩
    else return none

/-- The length of a word that comes first and ends at a boundary. -/
def wordLength (profile : Profile) (text word : List Char) : Guarded (Option Nat) := do
  if word.isPrefixOf text then
    let rest ← Text.behind? text (Text.byteLength word)
    return if profile.atBoundary rest then some (Text.byteLength word) else none
  else return none

/-- The length of the longest of some words that comes first and ends at a boundary. It is the
longest in bytes, not in characters. -/
def longestWord (profile : Profile) (words : List String) (text : List Char) :
    Guarded (Option Nat) := do
  let lengths ← words.mapM fun word => wordLength profile text word.toList
  return (lengths.filterMap id).max?

noncomputable def sigilNameExtent (profile : Profile) (sigil : Char) (text : List Char) :
    Guarded (Option Extent) := do
  let cursor := Cursor.ofText text
  if (← cursor.peek) == some sigil then
    let cursor ← cursor.skipWhile (· == sigil)
    let (name, cursor) ← cursor.eatWhile profile.continuesIdentifier
    return if name = 0 then none else some ⟨cursor.passed, true⟩
  else return none

def characterExtent (profile : Profile) (lead : String) (names : List String) (text : List Char) :
    Guarded (Option Extent) := do
  let (leads, cursor) ← (Cursor.ofText text).eat lead.toList
  if leads then
    match ← longestWord profile names (← cursor.remaining) with
    | some length => return some ⟨cursor.passed + length, true⟩
    | none =>
      let (next, cursor) ← cursor.bump
      return some ⟨cursor.passed, next.isSome⟩
  else return none

/-- The reach of a symbol or a list behind a sigil. -/
noncomputable def quotedSymbolExtent (profile : Profile) (sigil : Char) (text : List Char) :
    Guarded (Option Extent) := do
  let cursor := Cursor.ofText text
  if (← cursor.peek) == some sigil then
    match ← cursor.peekNth 1 with
    | none => return none
    | some next =>
      if next == '(' then
        let (_, cursor) ← cursor.bump
        let (closed, cursor) ← listBody 0 cursor
        return some ⟨cursor.passed, closed⟩
      else if profile.continuesIdentifier next then
        let (_, cursor) ← cursor.bump
        let cursor ← cursor.skipWhile profile.continuesIdentifier
        return some ⟨cursor.passed, true⟩
      else return none
  else return none

noncomputable def literalExtent (profile : Profile) (text : List Char) : LiteralForm → Guarded (Option Extent)
  | .sigilName sigil => sigilNameExtent profile sigil text
  | .boolean spellings => do return (← longestWord profile spellings text).map (⟨·, true⟩)
  | .character lead names => characterExtent profile lead names text
  | .quotedSymbol sigil => quotedSymbolExtent profile sigil text

section

variable (quote : Char) (before : List Char) (c : Char) (rest : List Char)

theorem stringBody_nil :
    stringBody quote (.between before []) = some (false, .between before []) := by
  rw [stringBody, loop_eq, stringRound, Cursor.bump_nil]
  rfl

theorem stringBody_cons : stringBody quote (.between before (c :: rest)) =
    if c == '\\' then
      stringBody quote (.between (before ++ c :: rest.take 1) (rest.drop 1))
    else if c == quote then some (true, .between (before ++ [c]) rest)
    else stringBody quote (.between (before ++ [c]) rest) := by
  rw [stringBody, loop_eq, stringRound, Cursor.bump_cons]
  simp only [Option.bind_eq_bind, Option.bind_some]
  split
  · cases rest <;> simp [stringBody]
  · split <;> rfl

theorem listBody_nil (depth : Nat) :
    listBody depth (.between before []) = some (false, .between before []) := by
  rw [listBody, loop_eq, listRound, Cursor.bump_nil]
  rfl

theorem listBody_cons (depth : Nat) : listBody depth (.between before (c :: rest)) =
    if c == '(' then listBody (depth + 1) (.between (before ++ [c]) rest)
    else if c == ')' then
      (sub depth 1).bind fun depth =>
        if depth = 0 then some (true, .between (before ++ [c]) rest)
        else listBody depth (.between (before ++ [c]) rest)
    else listBody depth (.between (before ++ [c]) rest) := by
  rw [listBody, loop_eq, listRound, Cursor.bump_cons]
  simp only [Option.bind_eq_bind, Option.bind_some]
  split
  · rfl
  split
  · rw [Option.bind_assoc]
    congr
    funext depth
    by_cases outermost : depth = 0 <;> simp [outermost, listBody]
  · rfl

theorem commentBody_nil (markers : BlockMarkers) (depth : Nat) :
    commentBody markers depth (.between before []) = some (depth, .between before []) := by
  rw [commentBody, loop_eq, commentRound, Cursor.atEnd_between]
  rfl

theorem commentBody_cons (markers : BlockMarkers) (depth : Nat) :
    commentBody markers depth (.between before (c :: rest)) =
      if markers.nesting && markers.opener.isPrefixOf (c :: rest) then
        commentBody markers (depth + 1)
          (.between (before ++ markers.opener) ((c :: rest).drop markers.opener.length))
      else if markers.closer.isPrefixOf (c :: rest) then
        (sub depth 1).bind fun depth =>
          if depth = 0 then
            some (depth,
              .between (before ++ markers.closer) ((c :: rest).drop markers.closer.length))
          else commentBody markers depth
            (.between (before ++ markers.closer) ((c :: rest).drop markers.closer.length))
      else commentBody markers depth (.between (before ++ [c]) rest) := by
  rw [commentBody, loop_eq, commentRound, Cursor.atEnd_between, Cursor.eatIf_between]
  cases markers.nesting && markers.opener.isPrefixOf (c :: rest) with
  | true => rfl
  | false =>
    simp only [List.isEmpty_cons, Bool.false_eq_true, if_false, Option.bind_eq_bind,
      Option.bind_some, Cursor.eat_between]
    cases markers.closer.isPrefixOf (c :: rest) with
    | true =>
      simp only [if_true, Option.bind_some, Option.bind_assoc]
      congr
      funext depth
      by_cases outermost : depth = 0 <;> simp [outermost, commentBody]
    | false =>
      simp only [Bool.false_eq_true, if_false, Option.bind_some, Cursor.bump_cons]
      rfl

end

/-- A string is passed up to where it ends. The loop ends for every text, since each round passes a
character. -/
theorem stringBody_between (quote : Char) (passed : Nat) (before after : List Char) :
    ∃ body rest closed, after = body ++ rest ∧
      Extent.ofString quote passed after = ⟨passed + body.length, closed⟩ ∧
      stringBody quote (.between before after) = some (closed, .between (before ++ body) rest) := by
  induction passed, after using Extent.ofString.induct quote generalizing before with
  | case1 passed => exact ⟨[], [], false, rfl, rfl, by rw [stringBody_nil, List.append_nil]⟩
  | case2 passed c =>
    refine ⟨[c], [], c != '\\' && c == quote, rfl, rfl, ?_⟩
    rw [stringBody_cons, bne]
    cases c == '\\' with
    | true => exact stringBody_nil ..
    | false =>
      cases c == quote with
      | true => rfl
      | false => exact stringBody_nil ..
  | case3 passed c next rest escape ih =>
    obtain ⟨body, left, closed, rfl, reach, walk⟩ := ih (before ++ [c, next])
    rw [List.append_assoc] at walk
    refine ⟨c :: next :: body, left, closed, rfl, ?_, ?_⟩
    · rw [Extent.ofString, if_pos escape, reach, List.length_cons, List.length_cons]
      simp only [Extent.mk.injEq, and_true]
      omega
    · rw [stringBody_cons, if_pos escape]
      exact walk
  | case4 passed c next rest plain closes =>
    refine ⟨[c], next :: rest, true, rfl, ?_, ?_⟩
    · rw [Extent.ofString, if_neg plain, if_pos closes]
      rfl
    · rw [stringBody_cons, if_neg plain, if_pos closes]
  | case5 passed c next rest plain inside ih =>
    obtain ⟨body, left, closed, split, reach, walk⟩ := ih (before ++ [c])
    rw [List.append_assoc] at walk
    refine ⟨c :: body, left, closed, by rw [split]; rfl, ?_, ?_⟩
    · rw [Extent.ofString, if_neg plain, if_neg inside, reach, List.length_cons]
      simp only [Extent.mk.injEq, and_true]
      omega
    · rw [stringBody_cons, if_neg plain, if_neg inside]
      exact walk

/-- A list is passed up to where it ends. Inside a bracket the depth does not fall below zero. -/
theorem listBody_between {depth : Nat} (inside : 0 < depth) (passed : Nat)
    (before after : List Char) :
    ∃ body rest closed, after = body ++ rest ∧
      Extent.ofList depth passed after = ⟨passed + body.length, closed⟩ ∧
      listBody depth (.between before after) = some (closed, .between (before ++ body) rest) := by
  induction after generalizing depth passed before with
  | nil => exact ⟨[], [], false, rfl, rfl, by rw [listBody_nil, List.append_nil]⟩
  | cons c after ih =>
    rw [Extent.ofList, listBody_cons]
    have goOn : ∀ {next : Nat}, 0 < next → ∃ body rest closed, c :: after = body ++ rest ∧
        Extent.ofList next (passed + 1) after = ⟨passed + body.length, closed⟩ ∧
        listBody next (.between (before ++ [c]) after) =
          some (closed, .between (before ++ body) rest) := by
      intro next within
      obtain ⟨body, rest, closed, rfl, reach, walk⟩ := ih within (passed + 1) (before ++ [c])
      refine ⟨c :: body, rest, closed, rfl, ?_, ?_⟩
      · rw [reach, List.length_cons, Nat.add_assoc, Nat.add_comm 1]
      · rw [walk, List.append_assoc, List.singleton_append]
    split
    · exact goOn (Nat.succ_pos depth)
    split
    · rw [sub_of_le inside, Option.bind_some]
      split
      · rw [if_pos (by omega)]
        exact ⟨[c], after, true, rfl, rfl, rfl⟩
      · rw [if_neg (by omega)]
        exact goOn (by omega)
    · exact goOn inside

theorem ofComment_owed (markers : BlockMarkers) (depth passed : Nat) (front rest : List Char) :
    Extent.ofComment markers depth front.length passed (front ++ rest) =
      Extent.ofComment markers depth 0 (passed + front.length) rest := by
  induction front generalizing passed with
  | nil => rfl
  | cons c front ih =>
    rw [List.length_cons, List.cons_append, Extent.ofComment, if_pos (Nat.succ_pos _),
      Nat.add_sub_cancel, ih, Nat.add_assoc, Nat.add_comm 1]

theorem ofComment_marker (markers : BlockMarkers) (depth passed : Nat) {marker : List Char}
    {c : Char} {after rest : List Char} (nonempty : marker ≠ [])
    (split : c :: after = marker ++ rest) :
    Extent.ofComment markers depth (marker.length - 1) (passed + 1) after =
      Extent.ofComment markers depth 0 (passed + marker.length) rest := by
  cases marker with
  | nil => exact absurd rfl nonempty
  | cons first marker =>
    rw [List.cons_append, List.cons.injEq] at split
    obtain ⟨rfl, rfl⟩ := split
    rw [List.length_cons, Nat.add_sub_cancel, ofComment_owed, Nat.add_assoc, Nat.add_comm 1]

/-- A block comment is passed up to where it ends. Inside a comment the depth does not fall below
zero. Empty markers are excluded: a round could pass nothing then, and the loop would not end. -/
theorem commentBody_between {markers : BlockMarkers} (opener : markers.opener ≠ [])
    (closer : markers.closer ≠ []) {depth : Nat} (inside : 0 < depth) (passed : Nat)
    (before after : List Char) :
    ∃ body rest left, after = body ++ rest ∧
      Extent.ofComment markers depth 0 passed after = ⟨passed + body.length, left == 0⟩ ∧
      commentBody markers depth (.between before after) =
        some (left, .between (before ++ body) rest) := by
  induction length : after.length using Nat.strongRecOn generalizing depth passed before after with
  | ind length ih =>
    cases after with
    | nil =>
      refine ⟨[], [], depth, rfl, ?_, by rw [commentBody_nil, List.append_nil]⟩
      rw [Extent.ofComment, beq_eq_false_iff_ne.mpr (by omega)]
      rfl
    | cons c after =>
      -- Whatever is passed at once, the rest of the comment is shorter.
      have goOn : ∀ {next : Nat} (front rest : List Char), 0 < next → front ≠ [] →
          c :: after = front ++ rest → ∃ body left depth, c :: after = body ++ left ∧
            Extent.ofComment markers next 0 (passed + front.length) rest =
              ⟨passed + body.length, depth == 0⟩ ∧
            commentBody markers next (.between (before ++ front) rest) =
              some (depth, .between (before ++ body) left) := by
        intro next front rest within some_front split
        have shorter := congrArg List.length split
        have positive := List.length_pos_iff.mpr some_front
        rw [List.length_append] at shorter
        obtain ⟨body, left, depth, rfl, reach, walk⟩ :=
          ih rest.length (by omega) within (passed + front.length) (before ++ front) rest rfl
        refine ⟨front ++ body, left, depth, by rw [split, List.append_assoc], ?_, ?_⟩
        · rw [reach, List.length_append, Nat.add_assoc]
        · rw [walk, List.append_assoc]
      rw [Extent.ofComment, if_neg (Nat.lt_irrefl 0), commentBody_cons]
      split
      · rename_i opens
        obtain ⟨rest, split⟩ := List.isPrefixOf_iff_prefix.mp (Bool.and_eq_true_iff.mp opens).2
        rw [ofComment_marker markers _ passed opener split.symm, ← split, List.drop_left, split]
        exact goOn _ _ (Nat.succ_pos depth) opener split.symm
      split
      · rename_i closes
        obtain ⟨rest, split⟩ := List.isPrefixOf_iff_prefix.mp closes
        rw [ofComment_marker markers _ passed closer split.symm, ← split, List.drop_left, split,
          sub_of_le inside, Option.bind_some]
        split
        · rename_i outermost
          rw [if_pos (Nat.sub_eq_zero_of_le outermost), Nat.sub_eq_zero_of_le outermost]
          exact ⟨markers.closer, rest, 0, split.symm, rfl, rfl⟩
        · rw [if_neg (by omega)]
          exact goOn _ _ (by omega) closer split.symm
      · exact goOn [c] after inside (List.cons_ne_nil _ _) rfl

section

variable {profile : Profile}

theorem findM?_eq {α : Type} {test : α → Guarded Bool} {pure_ : α → Bool} {list : List α}
    (same : ∀ a ∈ list, test a = some (pure_ a)) :
    list.findM? test = some (list.find? pure_) := by
  induction list with
  | nil => rfl
  | cons a list ih =>
    rw [List.findM?, same a List.mem_cons_self, List.find?_cons,
      ih fun other member => same other (List.mem_cons_of_mem a member)]
    cases pure_ a <;> rfl

theorem findSomeM?_eq {α β : Type} {find : α → Guarded (Option β)} {pure_ : α → Option β}
    {list : List α} (same : ∀ a ∈ list, find a = some (pure_ a)) :
    list.findSomeM? find = some (list.findSome? pure_) := by
  induction list with
  | nil => rfl
  | cons a list ih =>
    rw [List.findSomeM?, same a List.mem_cons_self, List.findSome?_cons,
      ih fun other member => same other (List.mem_cons_of_mem a member)]
    cases pure_ a <;> rfl

theorem leadsQuote_eq (text lead : List Char) : leadsQuote profile text lead =
    some (lead.isPrefixOf text &&
      ((text.drop lead.length).head?.map profile.isQuote).getD false) := by
  rw [leadsQuote]
  split
  · rename_i front
    obtain ⟨rest, rfl⟩ := List.isPrefixOf_iff_prefix.mp front
    rw [Text.behind?_append, front, List.drop_left]
    rfl
  · rename_i apart
    rw [Bool.eq_false_iff.mpr apart]
    rfl

theorem stringExtent_of_start {front rest : List Char} {quote : Char}
    (start : stringStart profile (front ++ quote :: rest) =
      some (some (.between front (quote :: rest)))) :
    stringExtent profile (front ++ quote :: rest) =
      some (some ((Extent.ofString quote (front.length + 1) rest).inBytes
        (front ++ quote :: rest))) := by
  obtain ⟨body, left, closed, rfl, reach, walk⟩ :=
    stringBody_between quote (front.length + 1) (front ++ [quote]) rest
  have length : front.length + 1 + body.length = (front ++ [quote] ++ body).length := by
    simp only [List.length_append, List.length_singleton]
  have split : front ++ quote :: (body ++ left) = front ++ [quote] ++ body ++ left := by simp
  rw [reach, length, split, Extent.inBytes_append, ← split, stringExtent, start]
  simp only [Option.bind_eq_bind, Option.bind_some, Cursor.bump_cons, walk, Cursor.passed_between]
  rfl

/-- The reach of a string is found, for every profile and every text. -/
theorem stringExtent_eq (profile : Profile) (text : List Char) :
    stringExtent profile text = some ((profile.stringExtent? text).map (·.inBytes text)) := by
  have leads : profile.stringLeads.findM? (leadsQuote profile text) =
      some (profile.stringLead? text) := findM?_eq fun lead _ => leadsQuote_eq text lead
  have start : stringStart profile text =
      if (text.head?.map profile.isQuote).getD false then some (some (.between [] text))
      else (profile.stringLead? text).elim (some none) fun lead =>
        ((Cursor.between [] text).eat lead).map (some ·.2) := by
    rw [stringStart, Cursor.ofText_eq, Cursor.peek_between, leads]
    cases profile.stringLead? text with
    | none => rfl
    | some lead =>
      cases eaten : (Cursor.between [] text).eat lead <;> simp [eaten]
  cases text with
  | nil =>
    have nothing : profile.stringLead? [] = none := by
      rw [Option.eq_none_iff_forall_ne_some]
      intro lead found
      obtain ⟨quote, rest, split, _⟩ := Profile.quote_of_stringLead? found
      simp at split
    rw [nothing] at start
    rw [stringExtent, start]
    rfl
  | cons c text =>
    cases quoted : profile.isQuote c with
    | true =>
      rw [Profile.stringExtent?_of_quote quoted]
      refine @stringExtent_of_start profile [] text c (start.trans ?_)
      rw [List.head?_cons, Option.map_some, Option.getD_some, if_pos quoted]
    | false =>
      rw [List.head?_cons, Option.map_some, quoted, Option.getD_some,
        if_neg Bool.false_ne_true] at start
      cases found : profile.stringLead? (c :: text) with
      | none =>
        rw [found] at start
        rw [stringExtent, start, Profile.stringExtent?, quoted, found]
        rfl
      | some lead =>
        obtain ⟨quote, rest, split, _⟩ := Profile.quote_of_stringLead? found
        rw [Profile.stringExtent?_of_lead quoted found split]
        rw [found, split] at start
        rw [split]
        refine stringExtent_of_start (start.trans ?_)
        rw [Option.elim_some, Cursor.eat_between,
          if_pos (List.isPrefixOf_iff_prefix.mpr (List.prefix_append _ _)), List.drop_left]
        rfl

/-- The reach of a block comment is found. The profile has to be well formed, so that no marker is
empty. -/
theorem commentExtent_eq (wellFormed : profile.WellFormed) (text : List Char) :
    commentExtent profile text = some ((profile.commentExtent? text).map (·.inBytes text)) := by
  rw [commentExtent, Profile.commentExtent?]
  cases marked : profile.blockComment with
  | none => rfl
  | some markers =>
    dsimp only
    rw [Cursor.ofText_eq, Cursor.eat_between]
    split
    · rename_i front
      obtain ⟨rest, rfl⟩ := List.isPrefixOf_iff_prefix.mp front
      obtain ⟨body, left, depth, rfl, reach, walk⟩ :=
        commentBody_between (wellFormed.opener markers marked) (wellFormed.closer markers marked)
          Nat.one_pos markers.opener.length markers.opener rest
      rw [List.drop_left, reach, ← List.length_append, Option.map_some, ← List.append_assoc,
        Extent.inBytes_append]
      simp only [Option.bind_eq_bind, Option.bind_some, if_true, List.nil_append, walk,
        Cursor.passed_between]
      rfl
    · rfl

theorem wordLength_eq (text word : List Char) : wordLength profile text word =
    some (if word.isPrefixOf text && profile.atBoundary (text.drop word.length) then
      some (Text.byteLength word) else none) := by
  rw [wordLength]
  split
  · rename_i front
    obtain ⟨rest, rfl⟩ := List.isPrefixOf_iff_prefix.mp front
    rw [Text.behind?_append, front, List.drop_left]
    rfl
  · rename_i apart
    rw [Bool.eq_false_iff.mpr apart]
    rfl

theorem byteLength_take_le (text : List Char) {n m : Nat} (ordered : n ≤ m) :
    Text.byteLength (text.take n) ≤ Text.byteLength (text.take m) := by
  have split := Text.byteLength_take_add_drop (text.take m) n
  rw [List.take_take, Nat.min_eq_left ordered] at split
  omega

/-- Taking characters takes all of a text exactly when it takes all of its bytes. -/
theorem byteLength_take_eq_iff {text : List Char} {n : Nat} (within : n ≤ text.length) :
    Text.byteLength (text.take n) = Text.byteLength text ↔ n = text.length := by
  constructor
  · intro same
    have split := Text.byteLength_take_add_drop text n
    have nothing : text.drop n = [] := Text.byteLength_eq_zero_iff.mp (by omega)
    have long := List.drop_eq_nil_iff.mp nothing
    omega
  · rintro rfl
    rw [List.take_length]

/-- Of words that come first, the longest in characters is the longest in bytes, since one of any
two of them starts with the other. -/
theorem longestWord_eq (words : List String) (text : List Char) :
    longestWord profile words text =
      some ((profile.longestWord? words text).map fun n => Text.byteLength (text.take n)) := by
  have lengths : words.mapM (fun word => wordLength profile text word.toList) =
      some (words.map fun word =>
        if word.toList.isPrefixOf text && profile.atBoundary (text.drop word.toList.length) then
          some (Text.byteLength word.toList) else none) := by
    rw [funext fun word : String => @wordLength_eq profile text word.toList]
    exact List.mapM_pure
  rw [longestWord, lengths]
  simp only [Option.bind_eq_bind, Option.bind_some, Option.pure_def, List.filterMap_map,
    Function.id_comp, Option.some.injEq]
  cases longest : profile.longestWord? words text with
  | none =>
    rw [Option.map_none, List.max?_eq_none_iff, List.eq_nil_iff_forall_not_mem]
    intro bytes member
    obtain ⟨word, inWords, starts, _⟩ := (Profile.mem_wordSizes Text.byteLength).mp member
    exact Profile.longestWord?_eq_none.mp longest word inWords starts
  | some n =>
    obtain ⟨⟨word, inWords, starts, length⟩, none_longer⟩ :=
      Profile.longestWord?_eq_some.mp longest
    have front : ∀ {other : List Char}, other <+: text → text.take other.length = other :=
      fun prefix_ => (List.prefix_iff_eq_take.mp prefix_).symm
    rw [Option.map_some, List.max?_eq_some_iff]
    refine ⟨(Profile.mem_wordSizes Text.byteLength).mpr ⟨word, inWords, starts, ?_⟩, ?_⟩
    · rw [← length, front starts.1]
    · intro bytes member
      obtain ⟨other, otherIn, otherStarts, rfl⟩ := (Profile.mem_wordSizes Text.byteLength).mp member
      have shorter := byteLength_take_le text (none_longer other otherIn otherStarts)
      rwa [front otherStarts.1] at shorter

theorem sigilNameExtent_eq (sigil : Char) (text : List Char) :
    sigilNameExtent profile sigil text =
      some ((profile.literalExtent? (.sigilName sigil) text).map (·.inBytes text)) := by
  rw [sigilNameExtent, Profile.literalExtent?, Cursor.ofText_eq, Cursor.peek_between,
    drop_length_takeWhile]
  simp only [Option.bind_eq_bind, Option.bind_some, Cursor.skipWhile_between,
    Cursor.eatWhile_between, Cursor.passed_between, List.nil_append]
  have split := List.takeWhile_append_dropWhile (p := (· == sigil)) (l := text)
  cases starts : text.head? == some sigil with
  | false =>
    have nothing : text.takeWhile (· == sigil) = [] := by
      cases text with
      | nil => rfl
      | cons c text =>
        rw [List.head?_cons, Option.some_beq_some] at starts
        rw [List.takeWhile_cons, starts, if_neg Bool.false_ne_true]
    rw [nothing, if_neg Bool.false_ne_true, if_pos (Or.inl List.length_nil)]
    rfl
  | true =>
    have some_sigil : text.takeWhile (· == sigil) ≠ [] := by
      cases text with
      | nil => cases starts
      | cons c text =>
        rw [List.head?_cons, Option.some_beq_some] at starts
        rw [List.takeWhile_cons, if_pos starts]
        exact List.cons_ne_nil _ _
    generalize text.takeWhile (· == sigil) = sigils at split some_sigil
    generalize text.dropWhile (· == sigil) = rest at split
    subst split
    by_cases unnamed : rest.takeWhile profile.continuesIdentifier = []
    · rw [unnamed, if_pos rfl, if_pos Text.byteLength_nil, if_pos (Or.inr List.length_nil)]
      rfl
    · have present : ¬ (sigils.length = 0 ∨
          (rest.takeWhile profile.continuesIdentifier).length = 0) := by
        rw [List.length_eq_zero_iff, List.length_eq_zero_iff]
        exact fun missing => missing.elim some_sigil unnamed
      rw [if_pos rfl, if_neg present, if_neg (Nat.pos_iff_ne_zero.mp (Text.byteLength_pos unnamed)),
        Option.map_some, Extent.inBytes, List.take_length_add_append, take_length_takeWhile]
      rfl

theorem characterExtent_eq (lead : String) (names : List String) (text : List Char) :
    characterExtent profile lead names text =
      some ((profile.literalExtent? (.character lead names) text).map (·.inBytes text)) := by
  rw [characterExtent, Cursor.ofText_eq, Cursor.eat_between]
  split
  · rename_i front
    obtain ⟨rest, rfl⟩ := List.isPrefixOf_iff_prefix.mp front
    rw [List.drop_left, Profile.literalExtent?_character]
    simp only [Option.bind_eq_bind, Option.bind_some, if_true, List.nil_append,
      Cursor.remaining_between, longestWord_eq]
    cases longest : profile.longestWord? names rest with
    | some length =>
      simp [Extent.inBytes, List.take_length_add_append]
    | none =>
      cases rest with
      | nil => simp [Extent.inBytes]
      | cons c rest => simp [Extent.inBytes, List.take_length_add_append]
  · rename_i apart
    rw [Profile.literalExtent?]
    dsimp only
    rw [if_neg apart]
    rfl

theorem quotedSymbolExtent_list (sigil : Char) (rest : List Char) :
    quotedSymbolExtent profile sigil (sigil :: '(' :: rest) =
      some (some ((Extent.ofList 1 2 rest).inBytes (sigil :: '(' :: rest))) := by
  obtain ⟨body, left, closed, rfl, reach, walk⟩ := listBody_between Nat.one_pos 2 [sigil, '('] rest
  have length : 2 + body.length = ([sigil, '('] ++ body).length := by
    rw [List.length_append]
    rfl
  have split : sigil :: '(' :: (body ++ left) = [sigil, '('] ++ body ++ left := by simp
  rw [reach, length, split, Extent.inBytes_append, ← split, quotedSymbolExtent, Cursor.ofText_eq]
  simp [listBody_cons, walk]

theorem quotedSymbolExtent_eq (sigil : Char) (text : List Char) :
    quotedSymbolExtent profile sigil text =
      some ((profile.literalExtent? (.quotedSymbol sigil) text).map (·.inBytes text)) := by
  match text with
  | [] => rfl
  | [first] =>
    rw [quotedSymbolExtent, Cursor.ofText_eq, Cursor.peek_between, Cursor.peekNth_between]
    by_cases same : first = sigil <;> simp [same, Profile.literalExtent?]
  | first :: second :: rest =>
    by_cases same : first = sigil
    · subst same
      rw [Profile.literalExtent?, bne_self_eq_false, if_neg Bool.false_ne_true]
      by_cases opens : second = '('
      · subst opens
        exact quotedSymbolExtent_list first rest
      rw [quotedSymbolExtent, Cursor.ofText_eq, Cursor.peek_between, Cursor.peekNth_between]
      by_cases goesOn : profile.continuesIdentifier second = true
      · have cut : (first :: second :: rest).take
            (2 + (rest.takeWhile profile.continuesIdentifier).length) =
              first :: second :: rest.takeWhile profile.continuesIdentifier := by
          rw [Nat.add_comm, List.take_succ_cons, List.take_succ_cons, take_length_takeWhile]
        simp [opens, goesOn, Extent.inBytes, cut]
      · simp [opens, goesOn]
    · rw [quotedSymbolExtent, Cursor.ofText_eq, Cursor.peek_between]
      simp [same, Profile.literalExtent?]

/-- The reach of a literal form is found, whichever form it is and whether or not it is closed. -/
theorem literalExtent_eq (text : List Char) (form : LiteralForm) :
    literalExtent profile text form =
      some ((profile.literalExtent? form text).map (·.inBytes text)) := by
  cases form with
  | sigilName sigil => exact sigilNameExtent_eq sigil text
  | boolean spellings =>
    rw [literalExtent, longestWord_eq, Profile.literalExtent?, Option.map_map]
    simp [Extent.inBytes, Function.comp_def]
  | character lead names => exact characterExtent_eq lead names text
  | quotedSymbol sigil => exact quotedSymbolExtent_eq sigil text

end

end Guarded

end ProfileLexer
