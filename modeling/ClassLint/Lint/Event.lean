import ClassLint.Text.Quoted

/-!
# Events

What the program has done, told in verbose mode as one line each.
-/

namespace ClassLint

/-- Something that the program has done. -/
inductive Event where
  | configLoaded (path : Text)
  | patternRead (option source : Text)
  | stylesheetParsed (rules : Nat)
  | linted (filename : Text) (selectors diagnostics : Nat)
  deriving DecidableEq, Repr

/-- The line that tells of an event. -/
def Event.line : Event → Text
  | .configLoaded path => "DEBUG rscss.config: Loaded config from " ++ path
  | .patternRead option source =>
    "DEBUG rscss.config: Compiled custom " ++ option ++ " pattern " ++ Text.quoted source
  | .stylesheetParsed rules =>
    "DEBUG rscss.stylesheet.parser: Parsed stylesheet with " ++ Text.ofNat rules ++
      " top-level rule(s)"
  | .linted filename selectors diagnostics =>
    "DEBUG rscss.lint: Linted " ++ filename ++ ": " ++ Text.ofNat selectors ++
      " selector(s), " ++ Text.ofNat diagnostics ++ " diagnostic(s)"

end ClassLint
