import RuleBench.Script.Syntax

/-!
# Defects of a script

Everything that can be wrong with the text of a script, as causes. `Defect.message` is the only
place where they are worded; `Fault` adds the place, `Rejection` the texts that cannot be read at
all and therefore have no place.
-/

namespace RuleBench.Script

/-- The statement or definition whose indented block is missing. -/
inductive BlockOwner where
  | statement (keyword : String)
  | functionDefinition
  | classDefinition
deriving Repr, BEq, DecidableEq

def BlockOwner.phrase : BlockOwner → String
  | .statement keyword => s!"'{keyword}' statement"
  | .functionDefinition => "function definition"
  | .classDefinition => "class definition"

/-- A comprehension as diagnostics call it. -/
def ComprehensionForm.phrase : ComprehensionForm → String
  | .list => "list comprehension"
  | .set => "set comprehension"
  | .dict => "dict comprehension"
  | .generator => "generator expression"

/-- The families that a runtime tells apart when it reports a defect. -/
inductive DefectFamily where
  | syntactic
  | indentation
  | tabs
deriving Repr, BEq, DecidableEq

inductive Defect where
  -- characters and tokens
  | unterminatedString (lastLine : Nat)
  | unterminatedTripleString (lastLine : Nat)
  | invalidCharacter (char : Char)
  | invalidUnprintable (char : Char)
  | invalidNumber (kind : String)
  | invalidDigit (digit : Char) (kind : String)
  | leadingZeros
  | tooManyParentheses
  | unmatchedBracket (closing : Char)
  | mismatchedBracket (closing opening : Char) (openedOn : Option Nat)
  | neverClosed (opening : Char)
  | afterContinuation
  | unexpectedEnd
  | inconsistentTabs
  | inconsistentUnindent
  | tooManyIndents
  -- the text of literals
  | undecodable (family detail : String)
  | nonAsciiBytes
  | mixedStrings
  | tooManyDigits (digits : Nat)
  | formatBackslash
  | formatComment
  | formatNestedTooDeep
  | formatEmpty
  | formatExpecting
  | formatLoneBrace
  | formatUnterminated
  | formatUnmatched (closing : Char)
  | formatMismatched (closing opening : Char)
  | formatRequired (mark : Char)
  | formatConversion
  | formatTooManyParentheses
  | inFormat (inner : Defect)
  -- grammar
  | invalidSyntax
  | unexpectedIndent
  | unexpectedUnindent
  | expected (symbol : String)
  | expectedBlock
  | expectedBlockAfter (owner : BlockOwner) (line : Nat)
  | forgottenComma
  | forgottenParentheses (function : String)
  | assignmentForComparison
  | assignmentInCondition
  | keywordExpression
  | cannotAssign (what : String)
  | cannotAssignHere (what : String)
  | cannotDelete (what : String)
  | cannotName (what : String)
  | illegalAugmented (what : String)
  | illegalAnnotationTarget
  | annotatedContainer (what : String)
  | yieldTarget
  | positionalAfterKeyword
  | positionalAfterUnpacking
  | unpackingAfterUnpacking
  | bareGenerator
  | missingElse
  | comprehensionUnpacking
  | comprehensionTarget
  | dictComprehensionUnpacking
  | defaultBeforePlain
  | parenthesizedParameters (lambda : Bool)
  | slashFirst
  | slashTwice
  | slashAfterStar
  | slashStarComma
  | missingDefault
  | bareStar
  | starDefault
  | starTwice
  | starStarDefault
  | afterStarStar
  | starredGroup
  | doubleStarredGroup
  | trailingComma
  | tryWithoutHandler
  | mixedHandlers
  | unparenthesizedTypes
  | noExceptionTypes
  | wildcardTarget
  | patternTarget
  | positionalPatternAfterKeyword
  | realNumberRequired
  | imaginaryNumberRequired
  | patternValue
  | dictColon
  | dictValue
  | dictStarredValue
  -- names and scopes
  | duplicateArgument (name : String)
  | keywordRepeated (name : String)
  | parameterAndGlobal (name : String)
  | parameterAndNonlocal (name : String)
  | nonlocalAndGlobal (name : String)
  | annotatedGlobal (name : String)
  | annotatedNonlocal (name : String)
  | assignedBefore (name declaration : String)
  | usedBefore (name declaration : String)
  | nonlocalAtModule
  | noBinding (name : String)
  | starImport
  | rebindsIteration (name : String)
  | innerRebinds (name : String)
  | namedInIterable
  | namedInClass
  | yieldInside (form : ComprehensionForm)
  | inHint (what : String)
  -- placement
  | outsideLoop (keyword : String)
  | returnOutside
  | yieldOutside
  | awaitOutsideFunction
  | awaitOutsideAsync
  | asyncOutside (construct : String)
  | asyncComprehension
  | yieldFromAsync
  | returnInGenerator
  | exceptStarJump
  | defaultHandlerLast
  | starTarget
  | starTargets
  | starTooMany
  | starHere
  | nestedBlocks
  | futureUnknown (feature : String)
  | futureBraces
  | futureLate
  | unreachableWildcard
  | unreachableCapture (name : String)
  | alternativeNames
  | patternNameTwice (name : String)
  | patternStars
  | patternStarTooMany
  | patternKey
  | patternKeyTwice (key : String)
  | patternAttributeTwice (name : String)
deriving Repr

/-- At least four upper-case hexadecimal digits. -/
def codePointDigits (code : Nat) : String :=
  let digits := (Nat.toDigits 16 code).map fun c => c.toUpper
  String.ofList (List.replicate (4 - digits.length) '0' ++ digits)

namespace Defect

/-- The wording of a defect. -/
def message : Defect → String
  | unterminatedString line => s!"unterminated string literal (detected at line {line})"
  | unterminatedTripleString line =>
    s!"unterminated triple-quoted string literal (detected at line {line})"
  | invalidCharacter c => s!"invalid character '{c}' (U+{codePointDigits c.toNat})"
  | invalidUnprintable c => s!"invalid non-printable character U+{codePointDigits c.toNat}"
  | invalidNumber kind => s!"invalid {kind} literal"
  | invalidDigit digit kind => s!"invalid digit '{digit}' in {kind} literal"
  | leadingZeros => "leading zeros in decimal integer literals are not permitted; " ++
      "use an 0o prefix for octal integers"
  | tooManyParentheses => "too many nested parentheses"
  | unmatchedBracket c => s!"unmatched '{c}'"
  | mismatchedBracket c o line =>
    s!"closing parenthesis '{c}' does not match opening parenthesis '{o}'" ++
      match line with
      | none => ""
      | some n => s!" on line {n}"
  | neverClosed o => s!"'{o}' was never closed"
  | afterContinuation => "unexpected character after line continuation character"
  | unexpectedEnd => "unexpected EOF while parsing"
  | inconsistentTabs => "inconsistent use of tabs and spaces in indentation"
  | inconsistentUnindent => "unindent does not match any outer indentation level"
  | tooManyIndents => "too many levels of indentation"
  | undecodable family detail => s!"({family}) {detail}"
  | nonAsciiBytes => "bytes can only contain ASCII literal characters"
  | mixedStrings => "cannot mix bytes and nonbytes literals"
  | tooManyDigits n => "Exceeds the limit (4300 digits) for integer string conversion: " ++
      s!"value has {n} digits; use sys.set_int_max_str_digits() to increase the limit - " ++
      "Consider hexadecimal for huge integer literals to avoid decimal conversion limits."
  | formatBackslash => "f-string expression part cannot include a backslash"
  | formatComment => "f-string expression part cannot include '#'"
  | formatNestedTooDeep => "f-string: expressions nested too deeply"
  | formatEmpty => "f-string: empty expression not allowed"
  | formatExpecting => "f-string: expecting '\x7d'"
  | formatLoneBrace => "f-string: single '\x7d' is not allowed"
  | formatUnterminated => "f-string: unterminated string"
  | formatUnmatched c => s!"f-string: unmatched '{c}'"
  | formatMismatched c o =>
    s!"f-string: closing parenthesis '{c}' does not match opening parenthesis '{o}'"
  | formatRequired mark => s!"f-string: expression required before '{mark}'"
  | formatConversion => "f-string: invalid conversion character: expected 's', 'r', or 'a'"
  | formatTooManyParentheses => "f-string: too many nested parenthesis"
  | inFormat d => "f-string: " ++ d.message
  | invalidSyntax => "invalid syntax"
  | unexpectedIndent => "unexpected indent"
  | unexpectedUnindent => "unexpected unindent"
  | expected s => s!"expected {s}"
  | expectedBlock => "expected an indented block"
  | expectedBlockAfter owner line =>
    s!"expected an indented block after {owner.phrase} on line {line}"
  | forgottenComma => "invalid syntax. Perhaps you forgot a comma?"
  | forgottenParentheses f => s!"Missing parentheses in call to '{f}'. Did you mean {f}(...)?"
  | assignmentForComparison => "invalid syntax. Maybe you meant '==' or ':=' instead of '='?"
  | assignmentInCondition => "invalid syntax. Maybe you meant '==' instead of '='?"
  | keywordExpression => "expression cannot contain assignment, perhaps you meant \"==\"?"
  | cannotAssign what => s!"cannot assign to {what}"
  | cannotAssignHere what => s!"cannot assign to {what} here. Maybe you meant '==' instead of '='?"
  | cannotDelete what => s!"cannot delete {what}"
  | cannotName what => s!"cannot use assignment expressions with {what}"
  | illegalAugmented what => s!"'{what}' is an illegal expression for augmented assignment"
  | illegalAnnotationTarget => "illegal target for annotation"
  | annotatedContainer what => s!"only single target (not {what}) can be annotated"
  | yieldTarget => "assignment to yield expression not possible"
  | positionalAfterKeyword => "positional argument follows keyword argument"
  | positionalAfterUnpacking => "positional argument follows keyword argument unpacking"
  | unpackingAfterUnpacking =>
    "iterable argument unpacking follows keyword argument unpacking"
  | bareGenerator => "Generator expression must be parenthesized"
  | missingElse => "expected 'else' after 'if' expression"
  | comprehensionUnpacking => "iterable unpacking cannot be used in comprehension"
  | comprehensionTarget => "did you forget parentheses around the comprehension target?"
  | dictComprehensionUnpacking => "dict unpacking cannot be used in dict comprehension"
  | defaultBeforePlain => "non-default argument follows default argument"
  | parenthesizedParameters lambda =>
    if lambda then "Lambda expression parameters cannot be parenthesized"
    else "Function parameters cannot be parenthesized"
  | slashFirst => "at least one argument must precede /"
  | slashTwice => "/ may appear only once"
  | slashAfterStar => "/ must be ahead of *"
  | slashStarComma => "expected comma between / and *"
  | missingDefault => "expected default value expression"
  | bareStar => "named arguments must follow bare *"
  | starDefault => "var-positional argument cannot have default value"
  | starTwice => "* argument may appear only once"
  | starStarDefault => "var-keyword argument cannot have default value"
  | afterStarStar => "arguments cannot follow var-keyword argument"
  | starredGroup => "cannot use starred expression here"
  | doubleStarredGroup => "cannot use double starred expression here"
  | trailingComma => "trailing comma not allowed without surrounding parentheses"
  | tryWithoutHandler => "expected 'except' or 'finally' block"
  | mixedHandlers => "cannot have both 'except' and 'except*' on the same 'try'"
  | unparenthesizedTypes => "multiple exception types must be parenthesized"
  | noExceptionTypes => "expected one or more exception types"
  | wildcardTarget => "cannot use '_' as a target"
  | patternTarget => "invalid pattern target"
  | positionalPatternAfterKeyword => "positional patterns follow keyword patterns"
  | realNumberRequired => "real number required in complex literal"
  | imaginaryNumberRequired => "imaginary number required in complex literal"
  | patternValue => "patterns may only match literals and attribute lookups"
  | dictColon => "':' expected after dictionary key"
  | dictValue => "expression expected after dictionary key and ':'"
  | dictStarredValue => "cannot use a starred expression in a dictionary value"
  | duplicateArgument n => s!"duplicate argument '{n}' in function definition"
  | keywordRepeated n => s!"keyword argument repeated: {n}"
  | parameterAndGlobal n => s!"name '{n}' is parameter and global"
  | parameterAndNonlocal n => s!"name '{n}' is parameter and nonlocal"
  | nonlocalAndGlobal n => s!"name '{n}' is nonlocal and global"
  | annotatedGlobal n => s!"annotated name '{n}' can't be global"
  | annotatedNonlocal n => s!"annotated name '{n}' can't be nonlocal"
  | assignedBefore n d => s!"name '{n}' is assigned to before {d} declaration"
  | usedBefore n d => s!"name '{n}' is used prior to {d} declaration"
  | nonlocalAtModule => "nonlocal declaration not allowed at module level"
  | noBinding n => s!"no binding for nonlocal '{n}' found"
  | starImport => "import * only allowed at module level"
  | rebindsIteration n =>
    s!"assignment expression cannot rebind comprehension iteration variable '{n}'"
  | innerRebinds n =>
    s!"comprehension inner loop cannot rebind assignment expression target '{n}'"
  | namedInIterable =>
    "assignment expression cannot be used in a comprehension iterable expression"
  | namedInClass =>
    "assignment expression within a comprehension cannot be used in a class body"
  | yieldInside form => s!"'yield' inside {form.phrase}"
  | inHint what => s!"{what} cannot be used within an annotation"
  | outsideLoop keyword =>
    if keyword == "continue" then "'continue' not properly in loop" else "'break' outside loop"
  | returnOutside => "'return' outside function"
  | yieldOutside => "'yield' outside function"
  | awaitOutsideFunction => "'await' outside function"
  | awaitOutsideAsync => "'await' outside async function"
  | asyncOutside construct => s!"'{construct}' outside async function"
  | asyncComprehension => "asynchronous comprehension outside of an asynchronous function"
  | yieldFromAsync => "'yield from' inside async function"
  | returnInGenerator => "'return' with value in async generator"
  | exceptStarJump => "'break', 'continue' and 'return' cannot appear in an except* block"
  | defaultHandlerLast => "default 'except:' must be last"
  | starTarget => "starred assignment target must be in a list or tuple"
  | starTargets => "multiple starred expressions in assignment"
  | starTooMany => "too many expressions in star-unpacking assignment"
  | starHere => "can't use starred expression here"
  | nestedBlocks => "too many statically nested blocks"
  | futureUnknown f => s!"future feature {f} is not defined"
  | futureBraces => "not a chance"
  | futureLate => "from __future__ imports must occur at the beginning of the file"
  | unreachableWildcard => "wildcard makes remaining patterns unreachable"
  | unreachableCapture n => s!"name capture '{n}' makes remaining patterns unreachable"
  | alternativeNames => "alternative patterns bind different names"
  | patternNameTwice n => s!"multiple assignments to name '{n}' in pattern"
  | patternStars => "multiple starred names in sequence pattern"
  | patternStarTooMany => "too many expressions in star-unpacking sequence pattern"
  | patternKey => "mapping pattern keys may only match literals and attribute lookups"
  | patternKeyTwice k => s!"mapping pattern checks duplicate key ({k})"
  | patternAttributeTwice n => s!"attribute name repeated in class pattern: {n}"

/-- Defects of indentation form families of their own. -/
def family : Defect → DefectFamily
  | inconsistentTabs => .tabs
  | inconsistentUnindent | tooManyIndents | unexpectedIndent | unexpectedUnindent
  | expectedBlock | expectedBlockAfter .. => .indentation
  | _ => .syntactic

end Defect

/-- A defect with its place: the line from one, the column from one, or zero where there is none. -/
structure Fault where
  defect : Defect
  line : Nat
  column : Nat
deriving Repr

/-- Why a text is no script. -/
inductive Rejection where
  /-- The text breaks a rule at a known place. -/
  | fault (fault : Fault)
  /-- The text holds a null character. -/
  | nullCharacter
  /-- The text nests deeper than the reader can follow. -/
  | readerExhausted
  /-- The tree nests deeper than later passes can follow. -/
  | treeTooDeep
deriving Repr

end RuleBench.Script
