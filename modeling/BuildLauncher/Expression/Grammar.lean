/-!
# The grammar of expressions

The grammar is data: each rule tries its alternatives in order and takes the first that matches. A
second set of rules describes common mistakes. It is used only where a text is already known to be
wrong, and says what is wrong with it. Nothing stands in square brackets, since these end the tags
that hold expressions.
-/
namespace BuildLauncher.Expression

/-- The rules of expressions, and below them the rules of mistakes. -/
inductive Rule
  | whole
  | expression
  | plainExpression
  | conditional
  | lambda
  | parameters
  | orderedParameters
  | plainParameter
  | defaultParameter
  | anyParameter
  | defaultValue
  | slashAfterPlain
  | slashAfterDefault
  | starParameters
  | doubleStarParameter
  | disjunction
  | conjunction
  | inversion
  | comparison
  | compared
  | bitOr
  | bitXor
  | bitAnd
  | shift
  | sum
  | product
  | factor
  | power
  | awaited
  | primary
  | atom
  | group
  | tuple
  | generator
  | dict
  | set
  | dictGenerator
  | setGenerator
  | yielded
  | starExpression
  | starExpressions
  | starNamed
  | starNamedList
  | assignment
  | named
  | pair
  | pairs
  | keyValue
  | forClauses
  | forClause
  | targets
  | target
  | arguments
  | positional
  | givenArguments
  | namedArguments
  | starred
  | namedOrStarred
  | namedOrDouble
  | juxtaposed
  | oldStatement
  | badParameters
  | badStarParameters
  | badDoubleStarParameter
  | badNamed
  | badGroup
  | badGenerator
  | badDictGenerator
  | badPairs
  | badPair
  | badArguments
  | badNamedArgument
deriving DecidableEq, Repr

/-- What is said about a mistake. -/
inductive Verdict
  /-- A text of its own. -/
  | said (reason : String)
  /-- A text with a word for the kind of expression that is at fault in its middle. -/
  | about (before after : String)
  /-- Two expressions stand side by side; between brackets a comma may be missing. -/
  | sideBySide
  /-- A statement of old is written without parentheses. -/
  | statement
  /-- Among unpacked or named arguments one has neither name nor star. -/
  | misplaced
  /-- What takes each value in turn is nothing that can take one. -/
  | target
  /-- One of several arguments is a generator without parentheses. -/
  | bareGenerator
deriving DecidableEq, Repr

/-- A pattern of tokens. -/
inductive Pattern
  | empty
  | name
  | number
  | text
  /-- Quoted texts side by side, as many as there are. -/
  | texts
  | newline
  | stop
  | mark (s : String)
  | softWord
  | rule (r : Rule)
  | both (first second : Pattern)
  | either (first second : Pattern)
  | many (p : Pattern)
  /-- Succeeds where `p` matches, or where it does not, and takes nothing. -/
  | ahead (wanted : Bool) (p : Pattern)
  /-- Matches only while mistakes are looked for. -/
  | ifChecking (p : Pattern)
  /-- Matches without looking for mistakes. -/
  | quietly (p : Pattern)
  /-- A mistake: where `subject` and then `rest` match, there is a verdict on `subject`. -/
  | mistake (subject rest : Pattern) (verdict : Verdict)
deriving DecidableEq, Repr

namespace Pattern

def inOrder : List Pattern → Pattern
  | [] => empty
  | [p] => p
  | p :: rest => both p (inOrder rest)

def oneOf : List Pattern → Pattern
  | [] => ahead false empty
  | [p] => p
  | p :: rest => either p (oneOf rest)

def marks (ss : List String) : Pattern := oneOf (ss.map mark)

def optional (p : Pattern) : Pattern := either p empty

def many1 (p : Pattern) : Pattern := both p (many p)

/-- At least one `p`, with commas between them. -/
def listed (p : Pattern) : Pattern := both p (many (both (mark ",") p))

def next (p : Pattern) : Pattern := ahead true p
def notNext (p : Pattern) : Pattern := ahead false p

/-- Operands with operators of one rank between them. -/
def chained (operand : Rule) (operators : List String) : Pattern :=
  both (rule operand) (many (both (marks operators) (rule operand)))

/-- Operands with a word between them; without the word there is one. -/
def joined (operand : Rule) (word : String) : Pattern :=
  either (both (rule operand) (many1 (both (mark word) (rule operand)))) (rule operand)

end Pattern

open Pattern

def leftBrace : String := "\x7b"
def rightBrace : String := "\x7d"

/-- The words of the language that stand for values. -/
def constants : List String := ["True", "False", "None"]

def meantEquality : String := "invalid syntax. Maybe you meant '==' or ':=' instead of '='?"
def starInValue : String := "cannot use a starred expression in a dictionary value"
def noValue : String := "expression expected after dictionary key and ':'"
def noTargetParentheses : String := "did you forget parentheses around the comprehension target?"

/-- A value where there should be an expression, and where there is none. -/
def badValues : List Pattern := [
  mistake (inOrder [rule .expression, mark ":"]) (both (mark "*") (rule .bitOr))
    (.said starInValue),
  mistake (inOrder [rule .expression, mark ":"]) (next (marks [rightBrace, ","])) (.said noValue)]

/-- What follows a parameter of a function. -/
def endOfParameter : Pattern := either (mark ",") (next (mark ":"))

/-- The patterns of the rules. -/
def Rule.pattern : Rule → Pattern
  | .whole =>
    inOrder [
      oneOf [
        inOrder [rule .expression, many1 (both (mark ",") (rule .expression)),
          optional (mark ",")],
        both (rule .expression) (mark ","), rule .expression],
      many newline, stop]
  | .expression =>
    oneOf [ifChecking (rule .juxtaposed), ifChecking (rule .oldStatement), rule .conditional,
      rule .disjunction, rule .lambda]
  | .plainExpression =>
    quietly (oneOf [rule .conditional, rule .disjunction, rule .lambda])
  | .conditional =>
    inOrder [rule .disjunction, mark "if", rule .disjunction, mark "else", rule .expression]
  | .lambda =>
    inOrder [mark "lambda", optional (rule .parameters), mark ":", rule .expression]
  | .parameters => oneOf [ifChecking (rule .badParameters), rule .orderedParameters]
  | .orderedParameters =>
    oneOf [
      inOrder [rule .slashAfterPlain, many (rule .plainParameter), many (rule .defaultParameter),
        optional (rule .starParameters)],
      inOrder [rule .slashAfterDefault, many (rule .defaultParameter),
        optional (rule .starParameters)],
      inOrder [many1 (rule .plainParameter), many (rule .defaultParameter),
        optional (rule .starParameters)],
      both (many1 (rule .defaultParameter)) (optional (rule .starParameters)),
      rule .starParameters]
  | .plainParameter => both name endOfParameter
  | .defaultParameter => inOrder [name, rule .defaultValue, endOfParameter]
  | .anyParameter => inOrder [name, optional (rule .defaultValue), endOfParameter]
  | .defaultValue =>
    oneOf [both (mark "=") (rule .expression),
      ifChecking (mistake (mark "=") (next (marks [")", ","]))
        (.said "expected default value expression"))]
  | .slashAfterPlain => inOrder [many1 (rule .plainParameter), mark "/", endOfParameter]
  | .slashAfterDefault =>
    inOrder [many (rule .plainParameter), many1 (rule .defaultParameter), mark "/", endOfParameter]
  | .starParameters =>
    oneOf [ifChecking (rule .badStarParameters),
      inOrder [mark "*",
        either (rule .plainParameter) (both (mark ",") (next (rule .anyParameter))),
        many (rule .anyParameter), optional (rule .doubleStarParameter)],
      rule .doubleStarParameter]
  | .doubleStarParameter =>
    oneOf [ifChecking (rule .badDoubleStarParameter), both (mark "**") (rule .plainParameter)]
  | .disjunction => joined .conjunction "or"
  | .conjunction => joined .inversion "and"
  | .inversion => oneOf [both (mark "not") (rule .inversion), rule .comparison]
  | .comparison => oneOf [both (rule .bitOr) (many1 (rule .compared)), rule .bitOr]
  | .compared =>
    oneOf [
      both (marks ["==", "!=", "<=", "<", ">=", ">"]) (rule .bitOr),
      inOrder [mark "not", mark "in", rule .bitOr], both (mark "in") (rule .bitOr),
      inOrder [mark "is", mark "not", rule .bitOr], both (mark "is") (rule .bitOr)]
  | .bitOr => chained .bitXor ["|"]
  | .bitXor => chained .bitAnd ["^"]
  | .bitAnd => chained .shift ["&"]
  | .shift => chained .sum ["<<", ">>"]
  | .sum => chained .product ["+", "-"]
  | .product => chained .factor ["*", "/", "//", "%", "@"]
  | .factor => oneOf [both (marks ["+", "-", "~"]) (rule .factor), rule .power]
  | .power => oneOf [inOrder [rule .awaited, mark "**", rule .factor], rule .awaited]
  | .awaited => oneOf [both (mark "await") (rule .primary), rule .primary]
  | .primary =>
    both (rule .atom) (many (oneOf [
      both (mark ".") name, rule .generator,
      inOrder [mark "(", optional (rule .arguments), mark ")"]]))
  | .atom =>
    oneOf [name, marks constants, texts, number,
      both (next (mark "(")) (oneOf [rule .tuple, rule .group, rule .generator]),
      both (next (mark leftBrace))
        (oneOf [rule .dict, rule .set, rule .dictGenerator, rule .setGenerator]),
      mark "..."]
  | .group =>
    oneOf [inOrder [mark "(", oneOf [rule .yielded, rule .named], mark ")"],
      ifChecking (rule .badGroup)]
  | .tuple =>
    inOrder [mark "(",
      optional (inOrder [rule .starNamed, mark ",", optional (rule .starNamedList)]), mark ")"]
  | .generator =>
    oneOf [
      inOrder [mark "(",
        oneOf [rule .assignment, both (rule .expression) (notNext (mark ":="))],
        rule .forClauses, mark ")"],
      ifChecking (rule .badGenerator)]
  | .dict =>
    oneOf [inOrder [mark leftBrace, optional (rule .pairs), mark rightBrace],
      inOrder [mark leftBrace, rule .badPairs, mark rightBrace]]
  | .set => inOrder [mark leftBrace, rule .starNamedList, mark rightBrace]
  | .dictGenerator =>
    oneOf [inOrder [mark leftBrace, rule .keyValue, rule .forClauses, mark rightBrace],
      ifChecking (rule .badDictGenerator)]
  | .setGenerator =>
    oneOf [inOrder [mark leftBrace, rule .named, rule .forClauses, mark rightBrace],
      ifChecking (rule .badGenerator)]
  | .yielded =>
    oneOf [inOrder [mark "yield", mark "from", rule .expression],
      both (mark "yield") (optional (rule .starExpressions))]
  | .starExpression => oneOf [both (mark "*") (rule .bitOr), rule .expression]
  | .starExpressions =>
    oneOf [
      inOrder [rule .starExpression, many1 (both (mark ",") (rule .starExpression)),
        optional (mark ",")],
      both (rule .starExpression) (mark ","), rule .starExpression]
  | .starNamed => oneOf [both (mark "*") (rule .bitOr), rule .named]
  | .starNamedList => both (listed (rule .starNamed)) (optional (mark ","))
  | .assignment => inOrder [name, mark ":=", rule .expression]
  | .named =>
    oneOf [rule .assignment, ifChecking (rule .badNamed),
      both (rule .expression) (notNext (mark ":="))]
  | .pair => oneOf [both (mark "**") (rule .bitOr), rule .keyValue]
  | .pairs => both (listed (rule .pair)) (optional (mark ","))
  | .keyValue => inOrder [rule .expression, mark ":", rule .expression]
  | .forClauses => many1 (rule .forClause)
  | .forClause =>
    oneOf [
      inOrder [optional (mark "async"), mark "for", rule .targets, mark "in", rule .disjunction,
        many (both (mark "if") (rule .disjunction))],
      ifChecking (inOrder [optional (mark "async"), mark "for",
        notNext (both (rule .targets) (mark "in")), mistake (rule .starExpressions) empty .target])]
  | .targets => both (listed (rule .target)) (optional (mark ","))
  | .target =>
    oneOf [inOrder [mark "*", notNext (mark "*"), rule .target],
      both name (many (both (mark ".") name)), inOrder [mark "(", rule .targets, mark ")"]]
  | .arguments =>
    oneOf [inOrder [rule .givenArguments, optional (mark ","), next (mark ")")],
      ifChecking (rule .badArguments)]
  | .positional =>
    oneOf [rule .starred,
      both (oneOf [rule .assignment, both (rule .expression) (notNext (mark ":="))])
        (notNext (mark "="))]
  | .givenArguments =>
    oneOf [both (listed (rule .positional)) (optional (both (mark ",") (rule .namedArguments))),
      rule .namedArguments]
  | .namedArguments =>
    oneOf [inOrder [listed (rule .namedOrStarred), mark ",", listed (rule .namedOrDouble)],
      listed (rule .namedOrStarred), listed (rule .namedOrDouble)]
  | .starred => both (mark "*") (rule .expression)
  | .namedOrStarred =>
    oneOf [ifChecking (rule .badNamedArgument), inOrder [name, mark "=", rule .expression],
      rule .starred]
  | .namedOrDouble =>
    oneOf [ifChecking (rule .badNamedArgument), inOrder [name, mark "=", rule .expression],
      both (mark "**") (rule .expression)]
  | .juxtaposed =>
    oneOf [
      both (notNext (either (both name text) softWord))
        (mistake (rule .disjunction) (rule .plainExpression) .sideBySide),
      mistake (inOrder [rule .disjunction, mark "if", rule .disjunction])
        (notNext (marks ["else", ":"])) (.said "expected 'else' after 'if' expression")]
  | .oldStatement => mistake name (both (notNext (mark "(")) (rule .starExpressions)) .statement
  | .badParameters =>
    oneOf [
      mistake
        (both (many (rule .plainParameter))
          (either (rule .slashAfterDefault) (many1 (rule .defaultParameter))))
        (rule .plainParameter) (.said "non-default argument follows default argument"),
      mistake (both (many (rule .plainParameter)) (mark "("))
        (inOrder [listed name, optional (mark ","), mark ")"])
        (.said "Lambda expression parameters cannot be parenthesized"),
      mistake (mark "/") (mark ",") (.said "at least one argument must precede /"),
      mistake
        (both (either (rule .slashAfterPlain) (rule .slashAfterDefault))
          (many (rule .anyParameter)))
        (mark "/") (.said "/ may appear only once"),
      mistake
        (inOrder [optional (either (rule .slashAfterPlain) (rule .slashAfterDefault)),
          many (rule .anyParameter), mark "*", either (mark ",") (rule .plainParameter),
          many (rule .anyParameter)])
        (mark "/") (.said "/ must be ahead of *"),
      mistake (both (many1 (rule .anyParameter)) (mark "/")) (mark "*")
        (.said "expected comma between / and *")]
  | .badStarParameters =>
    oneOf [
      mistake (mark "*") (either (mark ":") (both (mark ",") (marks [":", "**"])))
        (.said "named arguments must follow bare *"),
      mistake (both (mark "*") name) (mark "=")
        (.said "var-positional argument cannot have default value"),
      mistake
        (inOrder [mark "*", either (rule .plainParameter) (mark ","), many (rule .anyParameter)])
        (both (mark "*") (either (rule .plainParameter) (mark ",")))
        (.said "* argument may appear only once")]
  | .badDoubleStarParameter =>
    oneOf [
      mistake (both (mark "**") name) (mark "=")
        (.said "var-keyword argument cannot have default value"),
      mistake (inOrder [mark "**", name, mark ","]) (either name (marks ["*", "**", "/"]))
        (.said "arguments cannot follow var-keyword argument")]
  | .badNamed =>
    oneOf [
      mistake (rule .expression) (both (mark ":=") (rule .expression))
        (.about "cannot use assignment expressions with " ""),
      mistake name (inOrder [mark "=", rule .bitOr, notNext (marks ["=", ":="])])
        (.said meantEquality),
      both (notNext (oneOf [rule .tuple, rule .generator, marks constants]))
        (mistake (rule .bitOr) (inOrder [mark "=", rule .bitOr, notNext (marks ["=", ":="])])
          (.about "cannot assign to " " here. Maybe you meant '==' instead of '='?"))]
  | .badGroup =>
    oneOf [
      mistake (both (mark "(") (rule .starred)) (mark ")")
        (.said "cannot use starred expression here"),
      mistake (inOrder [mark "(", mark "**", rule .expression]) (mark ")")
        (.said "cannot use double starred expression here")]
  | .badGenerator =>
    oneOf [
      mistake (both (marks ["(", leftBrace]) (rule .starred)) (rule .forClauses)
        (.said "iterable unpacking cannot be used in comprehension"),
      mistake (inOrder [mark leftBrace, rule .starNamed, mark ",", rule .starNamedList])
        (rule .forClauses) (.said noTargetParentheses),
      mistake (inOrder [mark leftBrace, rule .starNamed, mark ","]) (rule .forClauses)
        (.said noTargetParentheses)]
  | .badDictGenerator =>
    mistake (inOrder [mark leftBrace, mark "**", rule .bitOr])
      (both (rule .forClauses) (mark rightBrace))
      (.said "dict unpacking cannot be used in dict comprehension")
  | .badPairs =>
    oneOf (inOrder [listed (rule .pair), mark ",", rule .badPair] :: badValues)
  | .badPair =>
    oneOf (mistake (rule .expression) (notNext (mark ":"))
      (.said "':' expected after dictionary key") :: badValues)
  | .badArguments =>
    oneOf [
      mistake (rule .givenArguments) (both (mark ",") (mark "*"))
        (.said "iterable argument unpacking follows keyword argument unpacking"),
      mistake (rule .expression)
        (inOrder [rule .forClauses, mark ",",
          optional (either (rule .givenArguments) (both (rule .expression) (rule .forClauses)))])
        (.said "Generator expression must be parenthesized"),
      mistake name (inOrder [mark "=", rule .expression, rule .forClauses]) (.said meantEquality),
      mistake (rule .givenArguments) (rule .forClauses) .bareGenerator,
      mistake (both (rule .givenArguments) (mark ","))
        (both (rule .expression) (rule .forClauses))
        (.said "Generator expression must be parenthesized"),
      mistake (rule .givenArguments) (both (mark ",") (rule .givenArguments)) .misplaced]
  | .badNamedArgument =>
    oneOf [
      mistake (marks constants) (mark "=") (.about "cannot assign to " ""),
      mistake name (inOrder [mark "=", rule .expression, rule .forClauses]) (.said meantEquality),
      both (notNext (both name (mark "=")))
        (mistake (rule .expression) (mark "=")
          (.said "expression cannot contain assignment, perhaps you meant \"==\"?"))]

/-- Rules whose matches are kept for each place, so that none is found twice. -/
def Rule.isKept : Rule → Bool
  | .expression | .starExpression | .disjunction | .conjunction | .inversion | .bitOr | .bitXor
  | .bitAnd | .shift | .sum | .product | .factor | .awaited | .primary | .arguments | .badNamed =>
    true
  | _ => false

end BuildLauncher.Expression
