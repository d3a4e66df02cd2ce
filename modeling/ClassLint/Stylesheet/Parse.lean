import ClassLint.Stylesheet.Lexeme
import ClassLint.Stylesheet.Rule

/-!
# Reading a style sheet

The rules of a style sheet are built from its lexemes. A chunk is a run of running texts with
the comments and the white space between them; a brace after a chunk opens a rule, a semicolon
ends the chunk, and a chunk at the end of a block is dropped. The first offence in reading order
is reported: a character that starts no lexeme, an opening brace without a chunk, a closing brace
without a block, or the end of the source inside a block. The last one is reported where the last
lexeme other than comments and white space starts.
-/

namespace ClassLint

/-- What a style sheet may not hold at the place where it was found. -/
inductive Offence where
  | character (c : Char)
  | opening
  | closing
  | endOfSource
  deriving DecidableEq, Repr

/-- The first offence of a style sheet and its location. -/
structure ParseError where
  offence : Offence
  location : Location
  deriving DecidableEq, Repr

namespace ParseError

/-- An unexpected lexeme by its name and its characters, as a report shows it. -/
def tokenText (name chars : Text) : Text :=
  "Token('" ++ name ++ "', '" ++ chars ++ "')"

/-- A report about an unexpected lexeme. -/
def unexpected (name chars : Text) (location : Location) : Text :=
  "Unexpected token " ++ tokenText name chars ++ " at line " ++ Text.ofInt location.line ++
    ", column " ++ Text.ofInt location.column ++ "."

/-- The report of an offence. -/
def message (error : ParseError) : Text :=
  match error.offence with
  | .character c =>
    "No terminal matches '" ++ [c] ++ "' in the current parser context, at line " ++
      Text.ofInt error.location.line ++ " col " ++ Text.ofInt error.location.column
  | .opening => unexpected "LBRACE" "\x7b" error.location
  | .closing => unexpected "RBRACE" "\x7d" error.location
  | .endOfSource => unexpected "$END" "" error.location

end ParseError

/-- A run of running texts with what stands between them, and where it starts. -/
structure Chunk where
  text : Text
  location : Location
  deriving DecidableEq, Repr

/-- The rule that a chunk and the rules in its block make. -/
def StyleRule.ofChunk (chunk : Chunk) (children : List StyleRule) : StyleRule where
  prelude := Text.strip chunk.text
  location := chunk.location
  selectors :=
    if startsAtRule chunk.text then [] else SelectorList.split chunk.text chunk.location
  children := children

/-- A block that is still open: the chunk before its brace, and the rules before that chunk. -/
structure OpenBlock where
  chunk : Chunk
  before : List StyleRule

/-- What has been read of a style sheet: the rules of the innermost block, the blocks around it,
the chunk being read, what followed it, and where the last significant lexeme started. -/
structure Reading where
  rules : List StyleRule := []
  blocks : List OpenBlock := []
  chunk : Option Chunk := none
  gap : Text := []
  last : Location := .start

namespace Reading

/-- Read a running text: it starts a chunk or goes on with one. -/
def takeText (reading : Reading) (location : Location) (chars : Text) : Reading :=
  let chunk :=
    match reading.chunk with
    | none => ⟨chars, location⟩
    | some chunk => { chunk with text := chunk.text ++ reading.gap ++ chars }
  { reading with chunk := some chunk, gap := [], last := location }

/-- Read a semicolon: it ends a chunk without a rule. -/
def takeSemicolon (reading : Reading) (location : Location) : Reading :=
  { reading with chunk := none, gap := [], last := location }

/-- Read an opening brace: it opens the block of the chunk before it. -/
def takeOpening (reading : Reading) (location : Location) : Except ParseError Reading :=
  match reading.chunk with
  | none => .error ⟨.opening, location⟩
  | some chunk =>
    .ok { rules := [], blocks := ⟨chunk, reading.rules⟩ :: reading.blocks, last := location }

/-- Read a closing brace: it closes the innermost block and makes its rule. -/
def takeClosing (reading : Reading) (location : Location) : Except ParseError Reading :=
  match reading.blocks with
  | [] => .error ⟨.closing, location⟩
  | block :: outer =>
    .ok {
      rules := block.before ++ [.ofChunk block.chunk reading.rules]
      blocks := outer
      last := location }

/-- Read one lexeme. -/
def take (reading : Reading) (located : Location × Lexeme) : Except ParseError Reading :=
  let (location, lexeme) := located
  match lexeme.kind with
  | .text => .ok (reading.takeText location lexeme.chars)
  | .semicolon => .ok (reading.takeSemicolon location)
  | .opening => reading.takeOpening location
  | .closing => reading.takeClosing location
  | .comment => .ok { reading with gap := reading.gap ++ lexeme.chars }
  | .space => .ok { reading with gap := reading.gap ++ lexeme.chars }

/-- End the reading at the end of the source. -/
def finish (reading : Reading) : Except ParseError Stylesheet :=
  match reading.blocks with
  | [] => .ok ⟨reading.rules⟩
  | _ :: _ => .error ⟨.endOfSource, reading.last⟩

end Reading

/-- The style sheet that a source writes, or its first offence. -/
def Stylesheet.parse (source : Text) : Except ParseError Stylesheet := do
  let (lexemes, rest) := Lexeme.cut source
  let reading ← (Lexeme.locate .start lexemes).foldlM Reading.take {}
  match rest with
  | [] => reading.finish
  | c :: _ => .error ⟨.character c, Location.start.advance (lexemes.flatMap Lexeme.chars)⟩

end ClassLint
