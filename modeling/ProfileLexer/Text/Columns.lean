/-!
Texts set in columns of a given width.
-/

namespace ProfileLexer.Text

def alignRight (width : Nat) (text : String) : String :=
  String.ofList (List.replicate (width - text.length) ' ') ++ text

def alignLeft (width : Nat) (text : String) : String :=
  text ++ String.ofList (List.replicate (width - text.length) ' ')

def lines (rows : List String) : String :=
  "\n".intercalate rows

end ProfileLexer.Text
