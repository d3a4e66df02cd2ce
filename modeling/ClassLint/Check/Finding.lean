import ClassLint.Text.Basic

/-!
# Findings

A finding is a kind of violation with the values that its message names. A message is a row of
fixed texts and places for values; a value is put in as it is, and a place without a value stays
as it is written, between double braces.
-/

namespace ClassLint

/-- The kinds of violations. -/
inductive Kind where
  | unexpectedDescendantCombinator
  | maxDepthExceeded
  | onlyOneComponentName
  | invalidComponentName
  | invalidElementName
  | invalidVariantName
  | invalidHelperName
  deriving DecidableEq, Repr

/-- The values that a message names, by the names of their places. -/
abbrev Values := List (Text × Text)

/-- A violation, not yet tied to a place in a source. -/
structure Finding where
  kind : Kind
  data : Values := []
  deriving DecidableEq, Repr

/-- A piece of a message: a fixed text, or a place for a value. -/
inductive MessagePiece where
  | fixed (text : Text)
  | place (name : Text)
  deriving DecidableEq, Repr

/-- The piece with its value put in. -/
def MessagePiece.fill (values : Values) : MessagePiece → Text
  | .fixed text => text
  | .place name => (values.lookup name).getD ("\x7b\x7b" ++ name ++ "\x7d\x7d")

namespace Kind

/-- All kinds. -/
def all : List Kind :=
  [.unexpectedDescendantCombinator, .maxDepthExceeded, .onlyOneComponentName,
    .invalidComponentName, .invalidElementName, .invalidVariantName, .invalidHelperName]

/-- The name of a kind. -/
def name : Kind → Text
  | .unexpectedDescendantCombinator => "unexpectedDescendantCombinator"
  | .maxDepthExceeded => "maxDepthExceeded"
  | .onlyOneComponentName => "onlyOneComponentName"
  | .invalidComponentName => "invalidComponentName"
  | .invalidElementName => "invalidElementName"
  | .invalidVariantName => "invalidVariantName"
  | .invalidHelperName => "invalidHelperName"

/-- The kind with a name. -/
def ofName? (name : Text) : Option Kind := all.find? fun kind => kind.name == name

/-- The text before the selector, and the pieces after it, of a kind's message. -/
def wording : Kind → Text × List MessagePiece
  | .invalidComponentName =>
    ("Invalid component name \"",
      [.fixed ("\". Components must be two or more words separated by hyphens " ++
        "(e.g., \"component-name\").")])
  | .invalidElementName =>
    ("Invalid element name \"", [.fixed "\". Elements must be one word (e.g., \"element\")."])
  | .invalidVariantName =>
    ("Invalid variant name \"",
      [.fixed "\". Variants must start with a hyphen (e.g., \"-variant\")."])
  | .invalidHelperName =>
    ("Invalid helper name \"",
      [.fixed "\". Helpers must start with an underscore (e.g., \"_helper\")."])
  | .unexpectedDescendantCombinator =>
    ("Unexpected descendant combinator in \"",
      [.fixed "\". Use direct child combinator (>) instead."])
  | .maxDepthExceeded =>
    ("Selector \"", [.fixed "\" exceeds the maximum depth of ", .place "maxDepth", .fixed "."])
  | .onlyOneComponentName =>
    ("Only one component name is allowed per selector in \"", [.fixed "\"."])

/-- The pieces of a kind's message. -/
def pieces (kind : Kind) : List MessagePiece :=
  .fixed kind.wording.1 :: .place "selector" :: kind.wording.2

/-- The message of a kind with values put in. -/
def message (kind : Kind) (values : Values) : Text :=
  kind.pieces.flatMap (MessagePiece.fill values)

end Kind

/-- The message of a finding. -/
def Finding.message (finding : Finding) : Text := finding.kind.message finding.data

end ClassLint
