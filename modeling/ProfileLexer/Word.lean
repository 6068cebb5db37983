/-!
The sizes of machine words.
-/

namespace ProfileLexer

/-- Two to the power of 64: the least natural number that does not fit into a word. -/
def wordLimit : Nat := 0x10000000000000000

/-- Two to the power of 63: the least natural number that does not fit into a word with a sign. -/
def signedLimit : Nat := 0x8000000000000000

end ProfileLexer
