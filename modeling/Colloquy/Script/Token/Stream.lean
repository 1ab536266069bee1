import Colloquy.Script.Token

/-!
# Token streams

A text read one token at a time, with a look at the token to come. The end of the text is
`none`, and stays there however often it is asked for.

* `TokenStream.next`: the first token that has not been taken yet, and the stream after it.
* `TokenStream.peek`: the same token, left in the stream.
-/

namespace Colloquy

/-- A text that is read token by token. -/
structure TokenStream where
  /-- The characters that have not been read. -/
  rest : List Char
  /-- What was read ahead of `rest` and not taken yet: a token, or `none` for the end. -/
  ahead : Option (Option Token)
deriving DecidableEq, Repr

namespace TokenStream

/-- The stream of all tokens of a text. -/
def ofText (text : String) : TokenStream := ⟨text.toList, none⟩

/-- Reads from the characters alone. -/
def read (cs : List Char) : Option Token × List Char :=
  match Token.read? cs with
  | none => (none, [])
  | some (t, rest) => (some t, rest)

/-- Takes the next token, or `none` at the end. -/
def next (s : TokenStream) : Option Token × TokenStream :=
  match s.ahead with
  | some t => (t, ⟨s.rest, none⟩)
  | none => let (t, rest) := read s.rest; (t, ⟨rest, none⟩)

/-- Looks at the next token and keeps it. -/
def peek (s : TokenStream) : Option Token × TokenStream :=
  match s.ahead with
  | some t => (t, s)
  | none => let (t, rest) := read s.rest; (t, ⟨rest, some t⟩)

/-- How the next token is shown to a reader of messages. -/
def shown : Option Token → String
  | some t => t.text
  | none => "end of script"

end TokenStream

end Colloquy
