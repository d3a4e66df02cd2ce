import ClassLint.Pattern.Escape
import ClassLint.Pattern.Part
import ClassLint.Text.Identifier

/-!
# Reading patterns

A reader for written patterns that names the first fault and its position. Open parentheses are
kept on a stack, so the reader takes the pieces one by one. A backslash at the very end is noticed
as soon as the piece before it is taken; it hides any other fault noticed with that piece or
later. Faults of the pattern as a whole are reported when all of it has been read.

Parentheses are read at any depth of nesting. The limit that a running program has on the depth of
its recursion, and the failure of a reading that comes to it, are left out.
-/

namespace ClassLint

namespace PatternReader

/-! ## The stack of parentheses -/

/-- What a parenthesis opens. -/
inductive Opening where
  | capture (index : Nat)
  | together
  | flagged
  | look (behind negated : Bool)
  | condition (index : Nat)
  | atomic
  deriving DecidableEq, Repr

/-- An open parenthesis: what it opens, where it stands, what was read before it, and what held
before it: the flags, and whether a look behind was open. -/
structure OpenGroup where
  opening : Opening
  start : Nat
  outer : Branches
  flags : PatternFlags
  groupsBefore : Option Nat

/-- What has been read of a pattern. `widths` are those of the groups in order, unknown while a
group is open; `groupsBefore` is the number of groups before the outermost look behind that is
open; `conditions` are the numbers in conditions with their positions; `deferred` is the foremost
fault of the pattern as a whole, with the position of the part that it concerns. -/
structure State where
  flags : PatternFlags := {}
  alphabets : List PatternFlag := []
  widths : List (Option Width) := []
  names : List (Text × Nat) := []
  groupsBefore : Option Nat := none
  conditions : List (Nat × Nat) := []
  deferred : Option (Nat × PatternFaultKind) := none
  branches : Branches := {}
  opened : List OpenGroup := []

namespace State

/-- Add a part that starts at a position. -/
def push (state : State) (start : Nat) (part : PatternPart) : State :=
  { state with branches := state.branches.push start part }

/-- The number of groups so far, and the next group's index less one. -/
def groupCount (state : State) : Nat := state.widths.length

/-- Whether there is a group of an index and it has been closed. -/
def isClosed (state : State) (index : Nat) : Bool :=
  index ≠ 0 && (state.widths[index - 1]?.any Option.isSome)

/-- The width of a group; one that is not known counts as nothing. -/
def widthOf (state : State) (index : Nat) : Width :=
  ((state.widths[index - 1]?).bind id).getD ⟨0, 0⟩

/-- Note a fault of the pattern as a whole. The foremost part counts, and of two faults of one part
the later. -/
def defer (state : State) (start : Nat) (kind : PatternFaultKind) : State :=
  match state.deferred with
  | some (earlier, _) =>
    if start ≤ earlier then { state with deferred := some (start, kind) } else state
  | none => { state with deferred := some (start, kind) }

/-- Open a parenthesis. -/
def openGroup (state : State) (opening : Opening) (start : Nat) : State :=
  let group : OpenGroup :=
    { opening, start, outer := state.branches, flags := state.flags
      groupsBefore := state.groupsBefore }
  { state with branches := {}, opened := group :: state.opened }

/-- Open a group. -/
def openCapture (state : State) (start : Nat) : State :=
  let opened := state.openGroup (.capture (state.groupCount + 1)) start
  { opened with widths := state.widths ++ [none] }

/-- What is wrong about a reference from inside a look behind. -/
def lookBehindFault? (state : State) (index : Nat) : Option PatternFaultKind :=
  match state.groupsBefore with
  | none => none
  | some count =>
    if !state.isClosed index then some .openReference
    else if count < index then some .referenceWithinLookBehind
    else none

end State

/-- A state and the pieces that are still to be taken. -/
abbrev Progress := Except PatternFault (State × Pieces)

/-! ## References and escapes -/

/-- Take a reference to a group; what is wrong with it is reported at `start`. -/
def takeReference (state : State) (index start : Nat) (pieces : Pieces) : Progress :=
  if !state.isClosed index then pieces.fail .openReference start
  else match state.lookBehindFault? index with
    | some kind => pieces.fail kind pieces.position
    | none => .ok (state.push start (.reference index), pieces)

/-- Take an escape that starts with a digit other than zero: three digits in base eight are a code
point, fewer digits are a reference to a group. -/
def takeNumber (state : State) (first : Char) (start : Nat) (pieces : Pieces) : Progress :=
  let (second, afterSecond) := pieces.span 1 Char.isDigit
  let (third, afterThird) := afterSecond.span 1 isOctalDigit
  let octal := first :: second ++ third
  if second.length = 1 && third.length = 1 && octal.all isOctalDigit then
    let code := Text.ofDigits 8 octal
    if octalLimit < code then afterThird.fail (.octalTooLarge ('\\' :: octal)) start
    else .ok (state.push start (.char code false), afterThird)
  else
    let index := Text.ofDigits 10 (first :: second)
    if index ≤ state.groupCount then takeReference state index start afterSecond
    else afterSecond.fail (.invalidReference index) (start + 1)

/-- Take an escape outside of sets. -/
def takeEscape (state : State) (c : Char) (start : Nat) (pieces : Pieces) : Progress :=
  let alphabet := state.flags.alphabet
  match anchorEscape? alphabet c, classEscape? alphabet c, controlEscape? c,
    readCode? c start pieces with
  | some anchor, _, _, _ => .ok (state.push start (.anchor anchor), pieces)
  | none, some entry, _, _ => .ok (state.push start (.set [entry] false), pieces)
  | none, none, some control, _ => .ok (state.push start (.char control.toNat false), pieces)
  | none, none, none, some read =>
    read.map fun (code, rest) => (state.push start (.char code false), rest)
  | none, none, none, none =>
    if c = '0' then
      let (more, rest) := pieces.span 2 isOctalDigit
      .ok (state.push start (.char (Text.ofDigits 8 more) false), rest)
    else if c.isDigit then takeNumber state c start pieces
    else if c.isAlpha then pieces.fail (.badEscape ['\\', c]) start
    else .ok (state.push start (.char c.toNat false), pieces)

/-! ## Repeats -/

/-- The number from which on a repeat is refused. -/
def repeatLimit : Nat := 0xFFFFFFFF

/-- A repeat: at least how often, at most how often, and what follows its sign. -/
structure RepeatSign where
  least : Nat
  most : Option Nat
  rest : Pieces

/-- The number that digits write in a repeat; none without digits. -/
def readCount (digits : Text) (pieces : Pieces) : Except PatternFault (Option Nat) :=
  let count := Text.ofDigits 10 digits
  let failed (kind : PatternFaultKind) : Except PatternFault (Option Nat) :=
    .error ⟨kind, none, pieces.tokens.isEmpty⟩
  if digits.isEmpty then .ok none
  else if Text.digitLimit < digits.length then failed (.longNumber digits.length)
  else if repeatLimit ≤ count then failed .hugeRepeat
  else .ok (some count)

/-- The digits of the two bounds between braces, and what follows them; none if there are no such
bounds. -/
def bounds? (pieces : Pieces) : Option ((Text × Text) × Pieces) :=
  let (low, afterLow) := pieces.spanAll Char.isDigit
  match afterLow.skip? ',' with
  | some afterComma =>
    let (high, afterHigh) := afterComma.spanAll Char.isDigit
    (afterHigh.skip? '\x7d').map fun rest => ((low, high), rest)
  | none =>
    if low.isEmpty then none else (afterLow.skip? '\x7d').map fun rest => ((low, low), rest)

/-- The repeat that a piece starts, if it starts one; `pieces` follow it. -/
def repeatSign? (token : PatternToken) (pieces : Pieces) :
    Except PatternFault (Option RepeatSign) :=
  if token.is '*' then .ok (some ⟨0, none, pieces⟩)
  else if token.is '+' then .ok (some ⟨1, none, pieces⟩)
  else if token.is '?' then .ok (some ⟨0, some 1, pieces⟩)
  else if token.is '\x7b' then
    match bounds? pieces with
    | none => .ok none
    | some ((low, high), rest) => do
      let least := (← readCount low rest).getD 0
      let most ← readCount high rest
      if most.any (· < least) then rest.fail .leastAboveMost pieces.position
      else .ok (some ⟨least, most, rest⟩)
  else .ok none

/-- How a repeat goes on, by the sign after it, and what follows. -/
def readGreed (pieces : Pieces) : Greed × Pieces :=
  match pieces.skip? '?', pieces.skip? '+' with
  | some rest, _ => (.lazy, rest)
  | none, some rest => (.possessive, rest)
  | none, none => (.greedy, pieces)

/-- The name of a repeat where there may be none. -/
def greedName : Greed → Text
  | .greedy => "MAX_REPEAT"
  | .lazy => "MIN_REPEAT"
  | .possessive => "POSSESSIVE_REPEAT"

/-- Apply a repeat whose sign stands at `position` to the part before it. -/
def takeRepeat (state : State) (position : Nat) (sign : RepeatSign) : Progress :=
  match state.branches.parts with
  | [] | (_, .anchor _) :: _ => sign.rest.fail .nothingToRepeat position
  | (_, .repeated _) :: _ => sign.rest.fail .multipleRepeat position
  | (start, part) :: before =>
    let (greed, rest) := readGreed sign.rest
    let loop := Pattern.loop sign.least sign.most greed (part.pattern state.flags)
    let next := { state with
      branches := { state.branches with parts := (start, .repeated loop) :: before } }
    if state.flags.template then .ok (next.defer start (.templateRepeat (greedName greed)), rest)
    else .ok (next, rest)

/-! ## Parentheses -/

/-- Take a named group, from after the sign that opens its name. -/
def takeNamedGroup (state : State) (start : Nat) (pieces : Pieces) : Progress := do
  let (name, rest) ← readName '>' "group name" pieces
  if !Text.isIdentifier name then rest.fail (.badGroupName name) pieces.position
  else match state.names.lookup name with
    | some earlier =>
      rest.fail (.redefinedGroup name (state.groupCount + 1) earlier) pieces.position
    | none =>
      let opened := state.openCapture start
      .ok ({ opened with names := (name, state.groupCount + 1) :: state.names }, rest)

/-- Take a reference by name, from after the equals sign. -/
def takeNamedReference (state : State) (pieces : Pieces) : Progress := do
  let (name, rest) ← readName ')' "group name" pieces
  if !Text.isIdentifier name then rest.fail (.badGroupName name) pieces.position
  else match state.names.lookup name with
    | none => rest.fail (.unknownGroupName name) pieces.position
    | some index => takeReference state index pieces.position rest

/-- The greatest number that can stand in a condition. -/
def groupLimit : Nat := 0x7FFFFFFF

/-- The group that a condition names, and whether by its number. -/
def conditionGroup (state : State) (name : Text) (position : Nat) (rest : Pieces) :
    Except PatternFault (Nat × Bool) :=
  if Text.isIdentifier name then
    match state.names.lookup name with
    | none => rest.fail (.unknownGroupName name) position
    | some index => .ok (index, false)
  else match Text.readInteger? name with
    | some (.ofNat index) =>
      if index = 0 then rest.fail .badGroupNumber position
      else if groupLimit ≤ index then rest.fail (.invalidReference index) position
      else .ok (index, true)
    | _ => rest.fail (.badGroupName name) position

/-- Take the opening of a condition, from after its inner parenthesis. -/
def takeCondition (state : State) (start : Nat) (pieces : Pieces) : Progress := do
  let (name, rest) ← readName ')' "group name" pieces
  let (index, numbered) ← conditionGroup state name pieces.position rest
  match state.lookBehindFault? index with
  | some kind => rest.fail kind rest.position
  | none =>
    let opened := state.openGroup (.condition index) start
    let isNew := numbered && !(state.conditions.any fun (other, _) => other == index)
    .ok (if isNew then { opened with conditions := state.conditions ++ [(index, pieces.position)] }
      else opened, rest)

/-- Take a look ahead or behind. -/
def takeLook (state : State) (behind negated : Bool) (start : Nat) (pieces : Pieces) : Progress :=
  let opened := state.openGroup (.look behind negated) start
  let groupsBefore :=
    if behind then some (state.groupsBefore.getD state.groupCount) else state.groupsBefore
  .ok ({ opened with groupsBefore }, pieces)

/-- Take the opening of a look behind, from after the angle bracket. -/
def takeBehind (state : State) (start : Nat) (pieces : Pieces) : Progress :=
  match pieces.next? with
  | none => pieces.fail .unexpectedEnd pieces.position
  | some (token, rest) =>
    if token.is '=' then takeLook state true false start rest
    else if token.is '!' then takeLook state true true start rest
    else rest.fail (.unknownExtension (['?', '<'] ++ token.text)) (start + 1)

/-- Take a comment, from after its sign. -/
def takeComment (state : State) (start : Nat) (pieces : Pieces) : Progress :=
  match pieces.spanTo ')' with
  | (_, some rest) => .ok (state, rest)
  | (_, none) => .error ⟨.unterminatedComment, some start, true⟩

/-- Take a change of flags, from its first sign on. One for the whole pattern must stand before
everything else. -/
def takeFlags (state : State) (start : Nat) (pieces : Pieces) : Progress := do
  let (change, rest) ← FlagChange.read pieces
  let flags := state.flags.turn change.on change.off
  if !change.whole then .ok ({ state.openGroup .flagged start with flags }, rest)
  else if state.opened.isEmpty && state.branches.isEmpty then
    .ok ({ state with flags, alphabets := state.alphabets ++ change.on }, rest)
  else rest.fail .lateFlags start

/-- Take what a letter of extensions opens, from after the letter. -/
def takeExtension (state : State) (start : Nat) (pieces : Pieces) : Progress :=
  match pieces.skip? '<', pieces.skip? '=', pieces.next? with
  | some rest, _, _ => takeNamedGroup state start rest
  | none, some rest, _ => takeNamedReference state rest
  | none, none, none => pieces.fail .unexpectedEnd pieces.position
  | none, none, some (token, rest) =>
    rest.fail (.unknownExtension (['?', 'P'] ++ token.text)) (start + 1)

/-- Take an opening parenthesis at `start` and the signs after its question mark. -/
def takeMarked (state : State) (start : Nat) (pieces : Pieces) : Progress :=
  match pieces.next? with
  | none => pieces.fail .unexpectedEnd pieces.position
  | some (token, rest) =>
    if token.is 'P' then takeExtension state start rest
    else if token.is ':' then .ok (state.openGroup .together start, rest)
    else if token.is '#' then takeComment state start rest
    else if token.is '=' then takeLook state false false start rest
    else if token.is '!' then takeLook state false true start rest
    else if token.is '<' then takeBehind state start rest
    else if token.is '(' then takeCondition state start rest
    else if token.is '>' then .ok (state.openGroup .atomic start, rest)
    else if token.isOf PatternFlag.isLetter || token.is '-' then takeFlags state start pieces
    else rest.fail (.unknownExtension ('?' :: token.text)) (start + 1)

/-- Take an opening parenthesis at `start`. -/
def takeOpening (state : State) (start : Nat) (pieces : Pieces) : Progress :=
  match pieces.skip? '?' with
  | some rest => takeMarked state start rest
  | none => .ok (state.openCapture start, pieces)

/-- The greatest number of characters that a look behind goes back. -/
def lookBehindLimit : Nat := 0xFFFFFFFF

/-- What is wrong about the width of a look behind. -/
def widthFault? (width : Width) : Option PatternFaultKind :=
  if lookBehindLimit < width.least then some .endlessLookBehind
  else if width.least ≠ width.most then some .variableLookBehind
  else none

/-- Close a look ahead or behind. -/
def closeLook (state : State) (behind negated : Bool) (start : Nat) (body : Pattern) :
    State × PatternPart :=
  let width := body.width state.widthOf
  if !behind then (state, .whole (.look 0 negated body))
  else match widthFault? width with
    | some kind => (state.defer start kind, .whole (.look 0 negated body))
    | none => (state, .whole (.look width.least negated body))

/-- Close a parenthesis: the state, in which the widths and the deferred faults may have changed,
and the part that the parenthesis makes. -/
def closeGroup (state : State) (group : OpenGroup) : State × PatternPart :=
  let parts := state.branches.close state.flags
  let body := PatternPart.sequencePattern state.flags parts
  match group.opening with
  | .capture index =>
    ({ state with widths := state.widths.set (index - 1) (some (body.width state.widthOf)) },
      .whole (.group index body))
  | .together => (state, .together parts)
  | .flagged => (state, .whole body)
  | .look behind negated => closeLook state behind negated group.start body
  | .condition index =>
    let current := PatternPart.sequencePattern state.flags state.branches.current
    match state.branches.finished with
    | [] => (state, .whole (.condition index current .empty))
    | yes :: _ =>
      (state, .whole (.condition index (PatternPart.sequencePattern state.flags yes) current))
  | .atomic => (state, .whole (.atomic body))

/-- What is wrong about the flags of the whole pattern. -/
def alphabetFault? (state : State) : Option PatternFaultKind :=
  if state.alphabets.contains .ascii && state.alphabets.contains .unicode then some .mixedAlphabets
  else none

/-- Take a closing parenthesis at `position`; `pieces` follow it. -/
def takeClosing (state : State) (position : Nat) (pieces : Pieces) : Progress :=
  match state.opened, alphabetFault? state with
  | [], some kind => .error ⟨kind, none, false⟩
  | [], none => .error ⟨.unbalancedParenthesis, some position, false⟩
  | group :: outer, _ =>
    let (closed, part) := closeGroup state group
    .ok ({ closed with
      flags := group.flags
      groupsBefore := group.groupsBefore
      branches := group.outer.push group.start part
      opened := outer }, pieces)

/-- Take a bar at `position`. A condition has at most two branches. -/
def takeBar (state : State) (position : Nat) (pieces : Pieces) : Progress :=
  let isCondition :=
    match state.opened with
    | ⟨.condition _, _, _, _, _⟩ :: _ => true
    | _ => false
  if isCondition && !state.branches.finished.isEmpty then
    .error ⟨.tooManyBranches, some position, false⟩
  else .ok ({ state with branches := state.branches.next }, pieces)

/-! ## The reader -/

/-- White space that a pattern in several lines may hold. -/
def isLayout (c : Char) : Bool := c == ' ' || ('\t' ≤ c && c ≤ '\r')

/-- What follows a comment that goes to the end of its line. -/
def skipLine (pieces : Pieces) : Pieces :=
  match pieces.spanTo '\n' with
  | (_, some rest) => rest
  | (text, none) => ⟨pieces.position + text.length, []⟩

/-- Take a piece at `start` that is neither a repeat sign nor layout; `pieces` follow it. -/
def takePlain (state : State) (token : PatternToken) (start : Nat) (pieces : Pieces) : Progress :=
  let anchor (condition : Anchor) : Progress := .ok (state.push start (.anchor condition), pieces)
  if token.escaped then takeEscape state token.char start pieces
  else if token.is '[' then
    (readSet state.flags.alphabet start pieces).map fun ((entries, negated), rest) =>
      (state.push start (.ofSet entries negated), rest)
  else if token.is '(' then takeOpening state start pieces
  else if token.is ')' then takeClosing state start pieces
  else if token.is '|' then takeBar state start pieces
  else if token.is '.' then .ok (state.push start .any, pieces)
  else if token.is '^' then anchor (if state.flags.multiline then .lineStart else .start)
  else if token.is '$' then anchor (if state.flags.multiline then .lineEnd else .lastLineEnd)
  else .ok (state.push start (.char token.char.toNat false), pieces)

/-- Take a piece at `start` and those that belong to it; `pieces` follow it. -/
def take (state : State) (token : PatternToken) (start : Nat) (pieces : Pieces) : Progress := do
  if state.flags.verbose && token.isOf isLayout then .ok (state, pieces)
  else if state.flags.verbose && token.is '#' then .ok (state, skipLine pieces)
  else match ← repeatSign? token pieces with
    | some sign => takeRepeat state start sign
    | none => takePlain state token start pieces

/-- Take all pieces. Each round takes at least one of them, so their number is fuel enough. -/
def takeAll : Nat → State → Pieces → Except PatternFault State
  | 0, state, _ => .ok state
  | fuel + 1, state, pieces =>
    match pieces.next? with
    | none => .ok state
    | some (token, rest) => do
      let (next, after) ← take state token pieces.position rest
      takeAll fuel next after

/-- The pattern of a state in which all pieces have been taken. -/
def finish (state : State) : Except PatternFault Pattern :=
  let unknown? := state.conditions.find? fun (index, _) => state.groupCount < index
  match state.opened, alphabetFault? state, unknown?, state.deferred with
  | group :: _, _, _, _ => .error ⟨.missingParenthesis, some group.start, true⟩
  | [], some kind, _, _ => .error ⟨kind, none, true⟩
  | [], none, some (index, position), _ => .error ⟨.invalidReference index, some position, true⟩
  | [], none, none, some (_, kind) => .error ⟨kind, none, true⟩
  | [], none, none, none =>
    .ok (PatternPart.sequencePattern state.flags (state.branches.close state.flags))

/-- The pattern of pieces. -/
def readPieces (pieces : Pieces) : Except PatternFault Pattern := do
  finish (← takeAll pieces.tokens.length {} pieces)

end PatternReader

/-- The pattern that a text writes, or its first fault. -/
def Pattern.read (source : Text) : Except PatternFault Pattern :=
  let (tokens, lone) := PatternToken.cut source
  let loneBackslash := .error ⟨.loneBackslash, some (source.length - 1), true⟩
  match lone, PatternReader.readPieces { tokens } with
  | false, result => result
  | true, .ok _ => loneBackslash
  | true, .error fault => if fault.atEnd then loneBackslash else .error fault

end ClassLint
