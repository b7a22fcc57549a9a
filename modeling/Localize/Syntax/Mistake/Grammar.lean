/-
  The grammar with the mistakes that are known in it, as phrases over tokens. Choices are tried in
  order, and a mistake is looked for where the construct that it spoils is read.
-/
import Localize.Syntax.Mistake.Form

namespace Localize.Syntax.Mistake

namespace Construct

open Phrase

/-- The phrase of a construct. -/
def phrase : Construct → Phrase Construct
  | .module => row [optional (part .statements), token .finish]
  | .singleExpression => row [part .expressions, many newline, token .finish]
  | .statements => several (part .statement)
  | .statement => choice [part .compound, part .line]
  | .line => choice [
      row [part .simple, notAhead (symbol ";"), newline],
      row [joined ";" (part .simple), optional (symbol ";"), newline]]
  | .simple => choice [
      part .assignment, part .starExpressions,
      row [ahead (word "return"), part .returning],
      row [ahead (choice [word "import", word "from"]), part .importing],
      row [ahead (word "raise"), part .raising],
      word "pass",
      row [ahead (word "del"), part .deletion],
      row [ahead (word "yield"), part .yielding],
      row [ahead (word "assert"), part .assertion],
      word "break", word "continue",
      row [ahead (word "global"), part .global],
      row [ahead (word "nonlocal"), part .nonlocal]]
  | .compound => choice [
      row [ahead (choice [word "def", symbol "@", word "async"]), part .functionDefinition],
      row [ahead (word "if"), part .conditional],
      row [ahead (choice [word "class", symbol "@"]), part .classDefinition],
      row [ahead (choice [word "with", word "async"]), part .withBlock],
      row [ahead (choice [word "for", word "async"]), part .forLoop],
      row [ahead (word "try"), part .tryBlock],
      row [ahead (word "while"), part .whileLoop],
      part .matching]
  | .assignment => choice [
      row [name, symbol ":", part .expression, optional (row [symbol "=", part .value])],
      row [choice [row [symbol "(", part .singleTarget, symbol ")"], part .place], symbol ":",
        part .expression, optional (row [symbol "=", part .value])],
      row [several (row [part .starTargets, symbol "="]),
        choice [part .yielding, part .starExpressions], notAhead (symbol "=")],
      decided (row [part .singleTarget, part .operatorSign])
        (choice [part .yielding, part .starExpressions]),
      suspected (part .badAssignment)]
  | .value => choice [part .yielding, part .starExpressions]
  | .operatorSign =>
      oneOf ["+=", "-=", "*=", "@=", "/=", "%=", "&=", "|=", "^=", "<<=", ">>=", "**=", "//="]
  | .returning => row [word "return", optional (part .starExpressions)]
  | .raising => choice [
      row [word "raise", part .expression, optional (row [word "from", part .expression])],
      word "raise"]
  | .global => row [word "global", listed name]
  | .nonlocal => row [word "nonlocal", listed name]
  | .deletion => choice [
      row [word "del", part .deletedTargets, ahead (choice [symbol ";", newline])],
      suspected (part .badDeletion)]
  | .assertion =>
      row [word "assert", part .expression, optional (row [symbol ",", part .expression])]
  | .importing => choice [
      row [word "import", listed (part .importedModule)],
      part .importingFrom]
  | .importingFrom =>
      let dots := choice [symbol ".", symbol "..."]
      choice [
        row [word "from", many dots, part .dottedName, word "import", part .importedNames],
        row [word "from", several dots, word "import", part .importedNames]]
  | .importedNames => choice [
      row [symbol "(", trailed (part .importedName), symbol ")"],
      row [listed (part .importedName), notAhead (symbol ",")],
      symbol "*",
      suspected (part .badImport)]
  | .importedName => row [name, optional (row [word "as", name])]
  | .importedModule => row [part .dottedName, optional (row [word "as", name])]
  | .dottedName => row [name, many (row [symbol ".", name])]
  | .block => choice [
      row [newline, token .indent, part .statements, token .dedent],
      part .line,
      suspected (part .badBlock)]
  | .decorators => several (row [symbol "@", part .namedExpression, newline])
  | .classDefinition => choice [row [part .decorators, part .plainClass], part .plainClass]
  | .plainClass => choice [
      suspected (part .badClass),
      row [word "class", name,
        optional (row [symbol "(", optional (part .arguments), symbol ")"]), symbol ":",
        part .block]]
  | .functionDefinition => choice [row [part .decorators, part .plainFunction], part .plainFunction]
  | .plainFunction =>
      let form := [word "def", name, needed "(", optional (part .parameters), symbol ")",
        optional (row [symbol "->", part .expression]), needed ":", part .block]
      choice [suspected (part .emptyFunction), row form, row (word "async" :: form)]
  | .conditional => branch "if" .badConditional
  | .furtherBranch => branch "elif" .badFurtherBranch
  | .alternative => choice [
      suspected (part .emptyAlternative),
      row [word "else", needed ":", part .block]]
  | .whileLoop => choice [
      suspected (part .badWhile),
      row [word "while", part .namedExpression, symbol ":", part .block,
        optional (part .alternative)]]
  | .forLoop => choice [
      suspected (part .badFor),
      forForm [], forForm [word "async"],
      suspected (part .badLoopTarget)]
  | .withBlock =>
      let inParentheses := [word "with", symbol "(", trailed (part .withItem), symbol ")",
        symbol ":", part .block]
      let plain := [word "with", listed (part .withItem), symbol ":", part .block]
      choice [
        suspected (part .emptyWith),
        row inParentheses, row plain, row (word "async" :: inParentheses),
        row (word "async" :: plain),
        suspected (part .unopenedWith)]
  | .withItem => choice [
      row [part .expression, word "as", part .starTarget, ahead (oneOf [",", ")", ":"])],
      suspected (part .badWithItem),
      part .expression]
  | .tryBlock => choice [
      suspected (part .badTry),
      row [word "try", needed ":", part .block, part .finalBlock],
      row [word "try", needed ":", part .block, several (part .handler),
        optional (part .alternative), optional (part .finalBlock)],
      row [word "try", needed ":", part .block, several (part .starHandler),
        optional (part .alternative), optional (part .finalBlock)]]
  | .handler => choice [
      suspected (part .emptyHandler),
      row [word "except", handled, symbol ":", part .block],
      row [word "except", symbol ":", part .block],
      suspected (part .badHandler)]
  | .starHandler => choice [
      suspected (part .emptyStarHandler),
      row [word "except", symbol "*", handled, symbol ":", part .block],
      suspected (part .badHandler)]
  | .finalBlock => choice [
      suspected (part .emptyFinal),
      row [word "finally", needed ":", part .block]]
  | .parameters => choice [suspected (part .badParameters), part .parameterList]
  | .parameterList =>
      parameterForms .slashPlain .slashDefaulted .plainParameter .defaultedParameter .afterStar
  | .slashPlain => slashed ")" (several (part .plainParameter))
  | .slashDefaulted =>
      slashed ")" (row [many (part .plainParameter), several (part .defaultedParameter)])
  | .afterStar => choice [
      suspected (part .badAfterStar),
      row [symbol "*", part .plainParameter, many (part .anyParameter), optional (part .keywordMap)],
      row [symbol "*", part .starNoteParameter, many (part .anyParameter),
        optional (part .keywordMap)],
      row [symbol "*", symbol ",", several (part .anyParameter), optional (part .keywordMap)],
      part .keywordMap]
  | .keywordMap => choice [
      suspected (part .badKeywordMap),
      row [symbol "**", part .plainParameter]]
  | .plainParameter => closedBy ")" (part .parameter)
  | .starNoteParameter => closedBy ")" (row [name, symbol ":", part .starExpression])
  | .defaultedParameter => closedBy ")" (row [part .parameter, part .default])
  | .anyParameter => closedBy ")" (row [part .parameter, optional (part .default)])
  | .parameter => row [name, optional (row [symbol ":", part .expression])]
  | .default => choice [row [symbol "=", part .expression], suspected (part .badDefault)]
  | .bareParameters => choice [suspected (part .badBareParameters), part .bareParameterList]
  | .bareParameterList =>
      parameterForms .bareSlashPlain .bareSlashDefaulted .barePlainParameter .bareDefaultedParameter
        .bareAfterStar
  | .bareSlashPlain => slashed ":" (several (part .barePlainParameter))
  | .bareSlashDefaulted =>
      slashed ":" (row [many (part .barePlainParameter), several (part .bareDefaultedParameter)])
  | .bareAfterStar => choice [
      suspected (part .badBareAfterStar),
      row [symbol "*", part .barePlainParameter, many (part .bareAnyParameter),
        optional (part .bareKeywordMap)],
      row [symbol "*", symbol ",", several (part .bareAnyParameter),
        optional (part .bareKeywordMap)],
      part .bareKeywordMap]
  | .bareKeywordMap => choice [
      suspected (part .badBareKeywordMap),
      row [symbol "**", part .barePlainParameter]]
  | .barePlainParameter => closedBy ":" name
  | .bareDefaultedParameter => closedBy ":" (row [name, part .default])
  | .bareAnyParameter => closedBy ":" (row [name, optional (part .default)])
  | .matching => choice [
      row [word "match", part .subject, symbol ":", newline, token .indent, several (part .case),
        token .dedent],
      suspected (part .badMatching)]
  | .subject => choice [
      row [part .element, symbol ",", optional (part .elements)],
      part .namedExpression]
  | .case => choice [
      suspected (part .badCase),
      row [word "case", part .patterns, optional (part .guard), symbol ":", part .block]]
  | .guard => row [word "if", part .namedExpression]
  | .patterns => choice [part .openSequence, part .pattern]
  | .pattern => choice [part .asPattern, part .orPattern]
  | .asPattern => choice [
      row [part .orPattern, word "as", part .captureTarget],
      suspected (part .badAsPattern)]
  | .orPattern => joined "|" (part .closedPattern)
  | .closedPattern => choice [
      part .literalPattern, part .captureTarget, word "_",
      row [part .attributeName, notAhead (oneOf [".", "(", "="])],
      row [symbol "(", part .pattern, symbol ")"],
      part .sequencePattern, part .mappingPattern, part .classPattern]
  | .literalPattern => choice [
      row [part .signedNumber, notAhead (oneOf ["+", "-"])],
      part .complexNumber, part .quotations, word "None", word "True", word "False"]
  | .literalKey => choice [
      row [part .signedNumber, notAhead (oneOf ["+", "-"])],
      part .complexNumber, part .quotations, word "None", word "True", word "False"]
  | .complexNumber => choice [
      row [part .signedReal, symbol "+", part .imaginaryNumber],
      row [part .signedReal, symbol "-", part .imaginaryNumber]]
  | .signedNumber => choice [number, row [symbol "-", number]]
  | .signedReal => choice [part .realNumber, row [symbol "-", part .realNumber]]
  | .realNumber => row [notAhead (row [one isImaginary, mistake]), number]
  | .imaginaryNumber => choice [one isImaginary, row [number, mistake]]
  | .captureTarget => row [notAhead (word "_"), name, notAhead (oneOf [".", "(", "="])]
  | .attributeName => row [name, several (row [symbol ".", name])]
  | .nameOrAttribute => row [name, many (row [symbol ".", name])]
  | .sequencePattern => choice [
      row [symbol "[", optional (part .maybeSequence), symbol "]"],
      row [symbol "(", optional (part .openSequence), symbol ")"]]
  | .openSequence =>
      row [part .maybeStarPattern, symbol ",", optional (part .maybeSequence)]
  | .maybeSequence => trailed (part .maybeStarPattern)
  | .maybeStarPattern => choice [part .starPattern, part .pattern]
  | .starPattern => choice [row [symbol "*", part .captureTarget], row [symbol "*", word "_"]]
  | .mappingPattern => choice [
      row [openBrace, closeBrace],
      row [openBrace, part .mapPattern, optional (symbol ","), closeBrace],
      row [openBrace, part .itemPatterns, symbol ",", part .mapPattern, optional (symbol ","),
        closeBrace],
      row [openBrace, part .itemPatterns, optional (symbol ","), closeBrace]]
  | .itemPatterns => listed (part .itemPattern)
  | .itemPattern =>
      row [choice [part .literalKey, part .attributeName], symbol ":", part .pattern]
  | .mapPattern => row [symbol "**", part .captureTarget]
  | .classPattern => choice [
      row [part .nameOrAttribute, symbol "(", symbol ")"],
      row [part .nameOrAttribute, symbol "(", part .positionalPatterns, optional (symbol ","),
        symbol ")"],
      row [part .nameOrAttribute, symbol "(", part .keywordPatterns, optional (symbol ","),
        symbol ")"],
      row [part .nameOrAttribute, symbol "(", part .positionalPatterns, symbol ",",
        part .keywordPatterns, optional (symbol ","), symbol ")"],
      suspected (part .badClassPattern)]
  | .positionalPatterns => listed (part .pattern)
  | .keywordPatterns => listed (row [name, symbol "=", part .pattern])
  | .expressions => choice [
      row [part .expression, several (row [symbol ",", part .expression]), optional (symbol ",")],
      row [part .expression, symbol ","],
      part .expression]
  | .expression => choice [
      suspected (part .badExpression),
      suspected (part .badOldStatement),
      row [part .disjunction, word "if", part .disjunction, word "else", part .expression],
      part .disjunction,
      part .lambda]
  | .yielding => choice [
      row [word "yield", word "from", part .expression],
      row [word "yield", optional (part .starExpressions)]]
  | .starExpressions => choice [
      row [part .starExpression, several (row [symbol ",", part .starExpression]),
        optional (symbol ",")],
      row [part .starExpression, symbol ","],
      part .starExpression]
  | .starExpression => choice [row [symbol "*", part .bitOr], part .expression]
  | .elements => trailed (part .element)
  | .element => choice [row [symbol "*", part .bitOr], part .namedExpression]
  | .assignmentExpression => decided (row [name, symbol ":="]) (part .expression)
  | .namedExpression => choice [
      part .assignmentExpression,
      suspected (part .badNamedExpression),
      row [part .expression, notAhead (symbol ":=")]]
  | .disjunction => wordChain "or" .conjunction
  | .conjunction => wordChain "and" .inversion
  | .inversion => choice [row [word "not", part .inversion], part .comparison]
  | .comparison => choice [row [part .bitOr, several comparisonRest], part .bitOr]
  | .bitOr => chain ["|"] .bitXor
  | .bitXor => chain ["^"] .bitAnd
  | .bitAnd => chain ["&"] .shift
  | .shift => chain ["<<", ">>"] .sum
  | .sum => chain ["+", "-"] .term
  | .term => chain ["*", "/", "//", "%", "@"] .factor
  | .factor => choice [row [oneOf ["+", "-", "~"], part .factor], part .power]
  | .power => choice [row [part .awaited, symbol "**", part .factor], part .awaited]
  | .awaited => choice [row [word "await", part .primary], part .primary]
  | .primary => row [part .atom, many suffix]
  | .slices => choice [
      row [part .slice, notAhead (symbol ",")],
      trailed (choice [part .slice, part .starredExpression])]
  | .slice => choice [
      row [optional (part .expression), symbol ":", optional (part .expression),
        optional (row [symbol ":", optional (part .expression)])],
      part .namedExpression]
  | .atom => choice [
      name, word "True", word "False", word "None", part .quotations, number,
      row [ahead (symbol "("), choice [part .tuple, part .group, part .generator]],
      row [ahead (symbol "["), choice [part .list, part .listLoop]],
      row [ahead openBrace, choice [part .dict, part .set, part .dictLoop, part .setLoop]],
      symbol "..."]
  | .group => choice [
      row [symbol "(", choice [part .yielding, part .namedExpression], symbol ")"],
      suspected (part .badGroup)]
  | .lambda => row [word "lambda", optional (part .bareParameters), symbol ":", part .expression]
  | .quotations => Phrase.quotations
  | .list => row [symbol "[", optional (part .elements), symbol "]"]
  | .tuple =>
      row [symbol "(", optional (row [part .element, symbol ",", optional (part .elements)]),
        symbol ")"]
  | .set => row [openBrace, part .elements, closeBrace]
  | .dict => choice [
      row [openBrace, optional (part .entries), closeBrace],
      row [openBrace, part .badEntries, closeBrace]]
  | .entries => trailed (part .entry)
  | .entry => choice [row [symbol "**", part .bitOr], part .keyValue]
  | .keyValue => row [part .expression, symbol ":", part .expression]
  | .loops => several (part .loop)
  | .loop => choice [loopForm [word "async"], loopForm [], suspected (part .badLoopTarget)]
  | .listLoop => choice [
      row [symbol "[", part .namedExpression, part .loops, symbol "]"],
      suspected (part .badLoops)]
  | .setLoop => choice [
      row [openBrace, part .namedExpression, part .loops, closeBrace],
      suspected (part .badLoops)]
  | .generator => choice [
      row [symbol "(", positional, part .loops, symbol ")"],
      suspected (part .badLoops)]
  | .dictLoop => choice [
      row [openBrace, part .keyValue, part .loops, closeBrace],
      suspected (part .badDictLoop)]
  | .arguments => choice [
      row [part .argumentList, optional (symbol ","), ahead (symbol ")")],
      suspected (part .badArguments)]
  | .argumentList => choice [
      row [listed (choice [part .starredExpression, row [positional, notAhead (symbol "=")]]),
        optional (row [symbol ",", part .keywordArguments])],
      part .keywordArguments]
  | .keywordArguments => choice [
      row [listed (part .keywordOrStarred), symbol ",", listed (part .keywordOrMap)],
      listed (part .keywordOrStarred),
      listed (part .keywordOrMap)]
  | .starredExpression => row [symbol "*", part .expression]
  | .keywordOrStarred => choice [
      suspected (part .badKeyword),
      row [name, symbol "=", part .expression],
      part .starredExpression]
  | .keywordOrMap => choice [
      suspected (part .badKeyword),
      row [name, symbol "=", part .expression],
      row [symbol "**", part .expression]]
  | .starTargets => choice [
      row [part .starTarget, notAhead (symbol ",")],
      row [part .starTarget, many (row [symbol ",", part .starTarget]), optional (symbol ",")]]
  | .starTarget => choice [
      row [symbol "*", notAhead (symbol "*"), part .starTarget],
      part .placeOrAtom]
  | .placeOrAtom => choice [placeEnd, part .starAtom]
  | .starAtom => choice [
      name,
      row [symbol "(", part .placeOrAtom, symbol ")"],
      row [symbol "(", optional (part .tupleTargets), symbol ")"],
      row [symbol "[", optional (trailed (part .starTarget)), symbol "]"]]
  | .tupleTargets => choice [
      row [part .starTarget, several (row [symbol ",", part .starTarget]), optional (symbol ",")],
      row [part .starTarget, symbol ","]]
  | .singleTarget => choice [
      part .place, name, row [symbol "(", part .singleTarget, symbol ")"]]
  | .place => placeEnd
  | .placeBase =>
      row [part .atom, ahead aheadSuffix, many (row [suffix, ahead aheadSuffix])]
  | .deletedTargets => trailed (part .deletedTarget)
  | .deletedTarget => choice [
      placeEnd,
      name,
      row [symbol "(", part .deletedTarget, symbol ")"],
      row [symbol "(", optional (part .deletedTargets), symbol ")"],
      row [symbol "[", optional (part .deletedTargets), symbol "]"]]
  | .badArguments => choice [
      row [part .argumentList, symbol ",", symbol "*", optional (part .expression), mistake],
      row [part .expression, part .loops, symbol ",",
        optional (choice [part .argumentList, row [part .expression, part .loops]]), mistake],
      row [name, symbol "=", part .expression, part .loops, mistake],
      judged (part .argumentList) (part .loops) .severalArguments,
      row [part .argumentList, symbol ",", part .expression, part .loops, mistake],
      row [part .argumentList, symbol ",", part .argumentList, mistake]]
  | .badKeyword => choice [
      row [choice [word "True", word "False", word "None"], symbol "=", mistake],
      row [name, symbol "=", part .expression, part .loops, mistake],
      row [notAhead (row [name, symbol "="]), part .expression, symbol "=", mistake]]
  | .trustedExpression => trusted (choice [
      row [part .disjunction, word "if", part .disjunction, word "else", part .expression],
      part .disjunction,
      part .lambda])
  | .badOldStatement =>
      judged name (row [notAhead (symbol "("), part .starExpressions]) .oldStatement
  | .badExpression => choice [
      row [notAhead (choice [row [name, one (· matches .quotation _)], one beginsSoftKeyword]),
        judged (part .disjunction) (part .trustedExpression) .sideBySide],
      row [part .disjunction, word "if", part .disjunction,
        notAhead (choice [word "else", symbol ":"]), mistake]]
  | .badNamedExpression => choice [
      row [part .expression, symbol ":=", part .expression, mistake],
      row [name, symbol "=", part .bitOr, notAhead (oneOf ["=", ":="]), mistake],
      row [notAhead (choice [part .list, part .tuple, part .generator, word "True", word "None",
          word "False"]),
        part .bitOr, symbol "=", part .bitOr, notAhead (oneOf ["=", ":="]), mistake]]
  | .badAssignment => choice [
      row [part .unannotatable, symbol ":", part .expression, mistake],
      row [part .element, symbol ",", many (part .elements), symbol ":", part .expression, mistake],
      row [part .expression, symbol ":", part .expression, mistake],
      row [many (row [part .starTargets, symbol "="]),
        judged (part .starExpressions) (symbol "=") .badTarget],
      row [many (row [part .starTargets, symbol "="]), part .yielding, symbol "=", mistake],
      row [part .starExpressions, part .operatorSign,
        choice [part .yielding, part .starExpressions], mistake]]
  | .unannotatable => choice [
      part .list, part .tuple, row [symbol "(", part .unannotatable, symbol ")"]]
  | .badDeletion => row [word "del", judged (part .starExpressions) (row []) .badDeletion]
  | .badBlock => row [newline, notAhead (token .indent), mistake]
  | .badLoops => choice [
      row [choice [symbol "[", symbol "(", openBrace], part .starredExpression, part .loops,
        mistake],
      row [choice [symbol "[", openBrace], part .element, symbol ",", part .elements, part .loops,
        mistake],
      row [choice [symbol "[", openBrace], part .element, symbol ",", part .loops, mistake]]
  | .badDictLoop => row [openBrace, symbol "**", part .bitOr, part .loops, closeBrace, mistake]
  | .badParameters =>
      parameterMistakes .plainParameter .anyParameter .slashPlain .slashDefaulted .defaultsFirst
        (several (part .plainParameter))
  | .defaultsFirst => choice [part .slashDefaulted, several (part .defaultedParameter)]
  | .badDefault => row [symbol "=", ahead (oneOf [")", ","]), mistake]
  | .badAfterStar => starMistakes ")" (part .parameter) .plainParameter .anyParameter
  | .badKeywordMap => mapMistakes (part .parameter)
  | .badBareParameters =>
      parameterMistakes .barePlainParameter .bareAnyParameter .bareSlashPlain .bareSlashDefaulted
        .bareDefaultsFirst (listed name)
  | .bareDefaultsFirst => choice [part .bareSlashDefaulted, several (part .bareDefaultedParameter)]
  | .badBareAfterStar => starMistakes ":" name .barePlainParameter .bareAnyParameter
  | .badBareKeywordMap => mapMistakes name
  | .badWithItem =>
      row [part .expression, word "as",
        judged (part .expression) (ahead (oneOf [",", ")", ":"])) .badTarget]
  | .badLoopTarget =>
      row [optionalAsync, word "for", judged (part .starExpressions) (row []) .badLoopTarget]
  | .badGroup => choice [
      row [symbol "(", part .starredExpression, symbol ")", mistake],
      row [symbol "(", symbol "**", part .expression, symbol ")", mistake]]
  | .badImport => row [listed (part .importedName), symbol ",", newline, mistake]
  | .unopenedWith => choice [
      row [optionalAsync, word "with", contextFront .expression, unopened],
      row [optionalAsync, word "with", symbol "(", contextFront .expressions,
        optional (symbol ","), symbol ")", unopened]]
  | .emptyWith => choice [
      row [optionalAsync, word "with", contextFront .expression, empty "'with' statement"],
      row [optionalAsync, word "with", symbol "(", contextFront .expressions,
        optional (symbol ","), symbol ")", empty "'with' statement"]]
  | .badTry => choice [
      row [word "try", empty "'try' statement"],
      row [word "try", symbol ":", part .block,
        notAhead (choice [word "except", word "finally"]), mistake],
      row [word "try", symbol ":", many (part .block),
        choice [
          row [several (part .handler), part .starHandler],
          row [several (part .starHandler), part .handler]],
        many (part .block), mistake]]
  | .badHandler => choice [
      row [word "except", optional (symbol "*"), part .expression, symbol ",", part .expressions,
        optional (row [word "as", name]), symbol ":", mistake],
      row [word "except", optional (symbol "*"), handled, unopened],
      row [word "except", unopened],
      row [word "except", symbol "*", choice [newline, symbol ":"], mistake]]
  | .emptyFinal => row [word "finally", empty "'finally' statement"]
  | .emptyHandler => choice [
      row [word "except", handled, empty "'except' statement"],
      row [word "except", empty "'except' statement"]]
  | .emptyStarHandler => row [word "except", symbol "*", handled, empty "'except*' statement"]
  | .badMatching => choice [
      row [word "match", part .subject, unopened],
      row [word "match", part .subject, empty "'match' statement"]]
  | .badCase => choice [
      row [word "case", part .patterns, optional (part .guard), unopened],
      row [word "case", part .patterns, optional (part .guard), empty "'case' statement"]]
  | .badAsPattern => choice [
      row [part .orPattern, word "as", word "_", mistake],
      row [part .orPattern, word "as", notAhead name, part .expression, mistake]]
  | .badClassPattern =>
      row [part .nameOrAttribute, symbol "(", part .badPatternOrder, mistake]
  | .badPatternOrder =>
      row [optional (row [part .positionalPatterns, symbol ","]), part .keywordPatterns, symbol ",",
        part .positionalPatterns]
  | .badConditional => conditionMistakes "if" "'if' statement"
  | .badFurtherBranch => conditionMistakes "elif" "'elif' statement"
  | .emptyAlternative => row [word "else", empty "'else' statement"]
  | .badWhile => conditionMistakes "while" "'while' statement"
  | .badFor => choice [
      row [optionalAsync, word "for", part .starTargets, word "in", part .starExpressions,
        unopened],
      row [optionalAsync, word "for", part .starTargets, word "in", part .starExpressions,
        empty "'for' statement"]]
  | .emptyFunction =>
      row [optionalAsync, word "def", name, symbol "(", optional (part .parameters), symbol ")",
        optional (row [symbol "->", part .expression]), empty "function definition"]
  | .badClass =>
      let front := [word "class", name,
        optional (row [symbol "(", optional (part .arguments), symbol ")"])]
      choice [row (front ++ [unopened]), row (front ++ [empty "class definition"])]
  | .badEntries => choice [
      row [listed (part .entry), symbol ",", part .badEntry],
      row [part .expression, symbol ":", symbol "*", part .bitOr, mistake],
      row [part .expression, symbol ":", ahead (choice [closeBrace, symbol ","]), mistake]]
  | .badEntry => choice [
      row [part .expression, notAhead (symbol ":"), mistake],
      row [part .expression, symbol ":", symbol "*", part .bitOr, mistake],
      row [part .expression, symbol ":", ahead (choice [closeBrace, symbol ","]), mistake]]

end Construct

end Localize.Syntax.Mistake
