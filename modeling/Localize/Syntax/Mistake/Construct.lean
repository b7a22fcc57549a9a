/-
  The constructs of the grammar in which mistakes are looked for.
-/

namespace Localize.Syntax.Mistake

/-- The constructs of the grammar. A construct whose name begins with `bad` or `un` holds mistakes
alone. -/
inductive Construct where
  | module
  | singleExpression
  -- Statements
  | statements
  | statement
  | line
  | simple
  | compound
  | assignment
  | value
  | operatorSign
  | returning
  | raising
  | global
  | nonlocal
  | deletion
  | assertion
  | importing
  | importingFrom
  | importedNames
  | importedName
  | importedModule
  | dottedName
  | block
  | decorators
  | classDefinition
  | plainClass
  | functionDefinition
  | plainFunction
  | conditional
  | furtherBranch
  | alternative
  | whileLoop
  | forLoop
  | withBlock
  | withItem
  | tryBlock
  | handler
  | starHandler
  | finalBlock
  -- Parameters; `bare` ones belong to a function without a name
  | parameters
  | parameterList
  | slashPlain
  | slashDefaulted
  | afterStar
  | keywordMap
  | plainParameter
  | starNoteParameter
  | defaultedParameter
  | anyParameter
  | parameter
  | default
  | bareParameters
  | bareParameterList
  | bareSlashPlain
  | bareSlashDefaulted
  | bareAfterStar
  | bareKeywordMap
  | barePlainParameter
  | bareDefaultedParameter
  | bareAnyParameter
  -- Matching
  | matching
  | subject
  | case
  | guard
  | patterns
  | pattern
  | asPattern
  | orPattern
  | closedPattern
  | literalPattern
  | literalKey
  | complexNumber
  | signedNumber
  | signedReal
  | realNumber
  | imaginaryNumber
  | captureTarget
  | attributeName
  | nameOrAttribute
  | sequencePattern
  | openSequence
  | maybeSequence
  | maybeStarPattern
  | starPattern
  | mappingPattern
  | itemPatterns
  | itemPattern
  | mapPattern
  | classPattern
  | positionalPatterns
  | keywordPatterns
  -- Expressions
  | expressions
  | expression
  | yielding
  | starExpressions
  | starExpression
  | elements
  | element
  | assignmentExpression
  | namedExpression
  | disjunction
  | conjunction
  | inversion
  | comparison
  | bitOr
  | bitXor
  | bitAnd
  | shift
  | sum
  | term
  | factor
  | power
  | awaited
  | primary
  | slices
  | slice
  | atom
  | group
  | lambda
  | quotations
  | list
  | tuple
  | set
  | dict
  | entries
  | entry
  | keyValue
  | loops
  | loop
  | listLoop
  | setLoop
  | generator
  | dictLoop
  | arguments
  | argumentList
  | keywordArguments
  | starredExpression
  | keywordOrStarred
  | keywordOrMap
  -- Targets
  | starTargets
  | starTarget
  | placeOrAtom
  | starAtom
  | tupleTargets
  | singleTarget
  | place
  | placeBase
  | deletedTargets
  | deletedTarget
  -- Mistakes
  | badArguments
  | badKeyword
  | trustedExpression
  | badOldStatement
  | badExpression
  | badNamedExpression
  | badAssignment
  | unannotatable
  | badDeletion
  | badBlock
  | badLoops
  | badDictLoop
  | badParameters
  | defaultsFirst
  | badDefault
  | badAfterStar
  | badKeywordMap
  | badBareParameters
  | bareDefaultsFirst
  | badBareAfterStar
  | badBareKeywordMap
  | badWithItem
  | badLoopTarget
  | badGroup
  | badImport
  | unopenedWith
  | emptyWith
  | badTry
  | badHandler
  | emptyFinal
  | emptyHandler
  | emptyStarHandler
  | badMatching
  | badCase
  | badAsPattern
  | badClassPattern
  | badPatternOrder
  | badConditional
  | badFurtherBranch
  | emptyAlternative
  | badWhile
  | badFor
  | emptyFunction
  | badClass
  | badEntries
  | badEntry
deriving DecidableEq, Repr

/-- Whether a construct is taken to end where it was once found to end. -/
def Construct.isShared : Construct → Bool
  | .simple | .block | .dottedName | .starPattern | .attributeName | .nameOrAttribute
  | .expression | .starExpression | .disjunction | .conjunction | .inversion | .bitOr | .bitXor
  | .bitAnd | .shift | .sum | .term | .factor | .awaited | .primary | .quotations | .arguments
  | .starTarget | .placeOrAtom | .placeBase | .deletedTarget | .badNamedExpression => true
  | _ => false

end Localize.Syntax.Mistake
