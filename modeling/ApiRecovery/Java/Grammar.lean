import ApiRecovery.Java.Rule

/-!
# The Java grammar

The rules of Java, a little more generous than the language: statements and methods may stand at
top level, and any keyword may name what is declared. Expressions are read by precedence; `arrows`
says whether a lambda expression may begin there, which it may not in a `case` label.
-/

namespace ApiRecovery.Java.Grammar

open Rule

inductive Symbol
  | topLevel | statement | block | localVariables
  | expression (arrows : Bool)
  | operation (level : Nat) (arrows : Bool)
  | operationTail (operator : String) (level : Nat) (arrows : Bool)
  | instanceofTail | ternaryTail (arrows : Bool)
  | unary (arrows : Bool)
  | primary (arrows : Bool)
  | fieldTail | invocationTail | indexTail | referenceTail | creationTail | templateTail
  | stepTail | assignmentTail (arrows : Bool)
  | arguments | arrayInitializer | stringLiteral | switchExpression | creation
  | type | plainType | simpleType | scopedTail | genericTail | arrayTail | typeArguments
  | dimensions
  | annotationUse | elementValue
  | qualifiedName | qualifiedNameTail
  | recordPattern
  | classBody | classMember | constantDeclaration | methodDeclaration
  | declaration | typeDeclaration | classDeclaration | interfaceDeclaration | enumDeclaration
  | annotationTypeDeclaration
  deriving DecidableEq, Repr

abbrev JavaRule := Rule Symbol

/-- Words that cannot name a variable or a type where an expression or a statement may begin. -/
def reserved : List String :=
  ["abstract", "assert", "boolean", "break", "byte", "case", "catch", "char", "class", "continue",
   "default", "do", "double", "else", "enum", "extends", "false", "final", "finally", "float",
   "for", "if", "implements", "import", "instanceof", "int", "interface", "long", "native", "new",
   "null", "package", "private", "protected", "public", "return", "short", "static", "strictfp",
   "super", "switch", "synchronized", "this", "throw", "throws", "transient", "true", "try", "void",
   "volatile", "while"]

/-- Words that go on after a dot in another way than as a member name. -/
def afterDot : List String :=
  ["class", "new", "super", "this"]

def identifier : JavaRule := name .identifier reserved
def anyName : JavaRule := name .identifier []
def memberName : JavaRule := name .identifier afterDot
def typeName : JavaRule := name .typeIdentifier (["record", "sealed"] ++ reserved)

def openBrace : JavaRule := mark "\x7b"
def closeBrace : JavaRule := mark "\x7d"

def this : JavaRule := node .this (keyword "this")
def superWord : JavaRule := node .super (keyword "super")
def expression : JavaRule := call (.expression true)
def statement : JavaRule := call .statement
def type : JavaRule := call .type
def plainType : JavaRule := call .plainType
def annotations : JavaRule := many (call .annotationUse)
def optTypeArguments : JavaRule := opt (role .typeArguments (call .typeArguments))
def arguments : JavaRule := role .arguments (call .arguments)
def qualifiedName : JavaRule := call .qualifiedName

def parenthesized : JavaRule :=
  node .parenthesizedExpression (all [mark "(", expression, mark ")"])

def modifiers : JavaRule :=
  node .modifiers (many1 (oneOf [call .annotationUse,
    keywords ["public", "protected", "private", "abstract", "static", "final", "strictfp",
      "default", "synchronized", "native", "transient", "volatile", "sealed"],
    all [keyword "non", mark "-", keyword "sealed"]]))

def optModifiers : JavaRule := opt modifiers

section Types

def simpleTypeBase : JavaRule :=
  oneOf [
    node .voidType (keyword "void"),
    node .integralType (keywords ["byte", "short", "int", "long", "char"]),
    node .floatingPointType (keywords ["float", "double"]),
    node .booleanType (keyword "boolean"),
    typeName]

def typeLinks : List (Link Symbol) :=
  let named := [.typeIdentifier, .scopedTypeIdentifier]
  [⟨.genericType, none, named, .genericTail⟩,
   ⟨.scopedTypeIdentifier, none, .genericType :: named, .scopedTail⟩]

def wildcard : JavaRule :=
  node .wildcard (all [annotations, mark "?",
    opt (seq (oneOf [keyword "extends", superWord]) type)])

def typeArguments : JavaRule :=
  node .typeArguments (all [mark "<", opt (commas (alt wildcard type)), mark ">"])

def dimensions : JavaRule :=
  node .dimensions (many1 (all [annotations, mark "[", mark "]"]))

def optDimensions : JavaRule := opt (role .dimensions (call .dimensions))

def typeBound : JavaRule :=
  node .typeBound (all [keyword "extends", type, many (seq (operator "&") type)])

def typeParameters : JavaRule :=
  node .typeParameters (all [mark "<",
    commas (node .typeParameter (all [annotations, name .typeIdentifier [], opt typeBound])),
    mark ">"])

def optTypeParameters : JavaRule := opt (role .typeParameters typeParameters)

def typeList : JavaRule := node .typeList (commas type)

def superInterfaces : JavaRule :=
  opt (role .interfaces (node .superInterfaces (seq (keyword "implements") typeList)))

def permits : JavaRule :=
  opt (role .permits (node .permits (seq (keyword "permits") typeList)))

def throws : JavaRule :=
  opt (node .throws (seq (keyword "throws") (commas type)))

end Types

section Annotations

def elementValue : JavaRule :=
  oneOf [
    node .elementValueArray (all [openBrace, opt (commas (call .elementValue)), opt (mark ","),
      closeBrace]),
    call .annotationUse,
    expression]

def elementValuePair : JavaRule :=
  node .elementValuePair (all [role .key anyName, operator "=", role .value (call .elementValue)])

def annotationArguments : JavaRule :=
  node .annotationArguments (seq (mark "(") (oneOf [
    seq (commas elementValuePair) (mark ")"),
    seq (call .elementValue) (mark ")"),
    mark ")"]))

def annotationUse : JavaRule :=
  let sign := seq (mark "@") (role .name qualifiedName)
  alt (node .annotationCall (seq sign (role .arguments annotationArguments)))
    (node .annotationMarker sign)

end Annotations

section Variables

def variableName : JavaRule :=
  role .name (alt (node .underscorePattern (keyword "_")) anyName)

def variableId : JavaRule := seq variableName optDimensions

def variableDeclarator : JavaRule :=
  node .variableDeclarator (seq variableId
    (opt (seq (operator "=") (role .value (alt (call .arrayInitializer) expression)))))

def variableDeclarators : JavaRule := commas (role .declarator variableDeclarator)

def variablesRule (kind : Kind) : JavaRule :=
  node kind (all [optModifiers, role .type plainType, variableDeclarators, mark ";"])

def arrayInitializer : JavaRule :=
  node .arrayInitializer (all [openBrace, opt (commas (alt (call .arrayInitializer) expression)),
    opt (mark ","), closeBrace])

def receiverParameter : JavaRule :=
  node .receiverParameter (all [annotations, plainType, many (seq anyReceiver (mark ".")), this])
where
  anyReceiver := name .identifier ["this"]

def formalParameter : JavaRule :=
  node .formalParameter (all [optModifiers, role .type plainType, variableId])

def spreadParameter : JavaRule :=
  node .spreadParameter (all [optModifiers, plainType, operator "...", annotations,
    variableDeclarator])

def formalParameters : JavaRule :=
  let parameters := opt (commas (alt formalParameter spreadParameter))
  node .formalParameters (seq (mark "(") (oneOf [
    seq receiverParameter (mark ")"),
    all [receiverParameter, mark ",", parameters, mark ")"],
    seq parameters (mark ")")]))

end Variables

section Expressions

/-- The binary operators with their levels, loosest first. -/
def binaryOperators : List (String × Nat) :=
  [("||", 1), ("&&", 2), ("|", 3), ("^", 4), ("&", 5), ("==", 6), ("!=", 6), ("<", 7), (">", 7),
   ("<=", 7), (">=", 7), ("<<", 8), (">>", 8), (">>>", 8), ("+", 9), ("-", 9), ("*", 10),
   ("/", 10), ("%", 10)]

/-- The level at which `instanceof` binds. -/
def relationalLevel : Nat := 7

/-- The links of operations that bind at `level` or tighter. -/
def operationLinks (level : Nat) (arrows : Bool) : List (Link Symbol) :=
  ((binaryOperators.filter fun (_, l) => level ≤ l).map fun (o, l) =>
    ⟨.binaryExpression, some .left, [], .operationTail o l arrows⟩) ++
  if level ≤ relationalLevel then [⟨.instanceofExpression, some .left, [], .instanceofTail⟩] else []

def instanceofTail : JavaRule :=
  all [keyword "instanceof", opt (keyword "final"), oneOf [
    role .pattern (call .recordPattern),
    seq (role .right type) (opt (role .name identifier))]]

def recordPattern : JavaRule :=
  let component := node .recordPatternComponent (alt
    (seq plainType identifier)
    (node .underscorePattern (keyword "_")))
  node .recordPattern (seq (chain identifier [⟨.genericType, none, [], .genericTail⟩])
    (node .recordPatternBody (all [mark "(", opt (commas (alt (call .recordPattern) component)),
      mark ")"])))

def lambda (arrows : Bool) : JavaRule :=
  let parameters := oneOf [
    identifier,
    node .inferredParameters (all [mark "(", commas identifier, mark ")"]),
    formalParameters]
  node .lambdaExpression (all [role .parameters parameters, operator "->",
    role .body (alt (call .block) (call (.expression arrows)))])

def cast (arrows : Bool) : JavaRule :=
  node .castExpression (all [mark "(", role .type type,
    many (seq (operator "&") (role .type type)), mark ")", role .value (call (.unary arrows))])

def unary (arrows : Bool) : JavaRule :=
  oneOf [
    node .unaryExpression (seq (role .operator (operators ["+", "-", "!", "~"]))
      (role .operand (call (.unary arrows)))),
    node .updateExpression (seq (operators ["++", "--"]) (call (.unary arrows))),
    cast arrows,
    call (.primary arrows)]

def creation : JavaRule :=
  all [keyword "new",
    annotations, opt (seq (role .typeArguments (call .typeArguments)) annotations),
    role .type (call .simpleType), arguments, opt (call .classBody)]

def arrayCreation : JavaRule :=
  let sized := node .dimensionsExpression (all [annotations, mark "[", expression, mark "]"])
  node .arrayCreationExpression (all [keyword "new", annotations,
    role .type (call .simpleType), oneOf [
      seq (role .dimensions (call .dimensions)) (role .value (call .arrayInitializer)),
      seq (many1 (role .dimensions sized)) optDimensions]])

def stringLiteral : JavaRule :=
  node .stringLiteral (alt (token .textPart .text)
    (all [token .textPart .textOpen, expression,
      many (seq (token .textPart .textMiddle) expression), token .textPart .textClose]))

/-- What an expression may begin with, operators and casts apart. -/
def primaryBase (arrows : Bool) : JavaRule :=
  oneOf ((if arrows then [lambda arrows] else []) ++ [
    parenthesized,
    call .stringLiteral,
    token .numberLiteral .number,
    token .characterLiteral .character,
    node .trueLiteral (keyword "true"),
    node .falseLiteral (keyword "false"),
    node .nullLiteral (keyword "null"),
    this,
    call .switchExpression,
    arrayCreation,
    node .objectCreationExpression (call .creation),
    node .methodInvocation (seq (role .object superWord) (call .invocationTail)),
    node .fieldAccess (seq (role .object superWord) (call .fieldTail)),
    node .methodReference (seq superWord (call .referenceTail)),
    node .classLiteral (all [plainType, mark ".", keyword "class"]),
    node .methodReference (seq type (call .referenceTail)),
    node .methodInvocation (seq (role .name identifier) arguments),
    identifier])

def primaryLinks (arrows : Bool) : List (Link Symbol) :=
  [⟨.methodInvocation, some .object, [], .invocationTail⟩,
   ⟨.fieldAccess, some .object, [], .fieldTail⟩,
   ⟨.arrayAccess, some .array, [], .indexTail⟩,
   ⟨.methodReference, none, [], .referenceTail⟩,
   ⟨.objectCreationExpression, none, [], .creationTail⟩,
   ⟨.templateExpression, some .templateProcessor, [], .templateTail⟩,
   ⟨.updateExpression, none, [], .stepTail⟩,
   ⟨.assignmentExpression, some .left, [.identifier, .fieldAccess, .arrayAccess],
    .assignmentTail arrows⟩]

def assignmentOperators : JavaRule :=
  operators ["=", "+=", "-=", "*=", "/=", "&=", "|=", "^=", "%=", "<<=", ">>=", ">>>="]

end Expressions

section Statements

def switchLabel : JavaRule :=
  let patternName := name .identifier ("when" :: reserved)
  let pattern := node .pattern (alt (call .recordPattern)
    (node .typePattern (seq plainType patternName)))
  let value := alt (node .identifier (keyword "default")) (call (.expression false))
  let guard := opt (node .guard (seq (keyword "when") (call (.expression false))))
  node .switchLabel (alt
    (all [keyword "case", alt pattern (commas value), guard])
    (keyword "default"))

def expressionStatement : JavaRule :=
  node .expressionStatement (seq expression (mark ";"))

def throwStatement : JavaRule :=
  node .throwStatement (all [keyword "throw", expression, mark ";"])

def switchBlock : JavaRule :=
  let rule := node .switchRule (all [switchLabel, operator "->",
    oneOf [expressionStatement, throwStatement, call .block]])
  let group := node .switchGroup (seq (many1 (seq switchLabel (operator ":"))) (many statement))
  node .switchBlock
    (seq openBrace (alt (seq (many rule) closeBrace) (seq (many group) closeBrace)))

def switchExpression : JavaRule :=
  node .switchExpression (all [keyword "switch", role .condition parenthesized,
    role .body switchBlock])

def ifStatement : JavaRule :=
  node .ifStatement (all [keyword "if", role .condition parenthesized, role .consequence statement,
    opt (seq (keyword "else") (role .alternative statement))])

def whileStatement : JavaRule :=
  node .whileStatement (all [keyword "while", role .condition parenthesized, role .body statement])

def doStatement : JavaRule :=
  node .doStatement (all [keyword "do", role .body statement, keyword "while",
    role .condition parenthesized, mark ";"])

def forStatement : JavaRule :=
  node .forStatement (all [keyword "for", mark "(",
    alt (role .init (call .localVariables))
      (seq (opt (commas (role .init expression))) (mark ";")),
    opt (role .condition expression), mark ";", opt (commas (role .update expression)), mark ")",
    role .body statement])

def enhancedForStatement : JavaRule :=
  node .enhancedForStatement (all [keyword "for", mark "(", optModifiers, role .type plainType,
    variableId, operator ":", role .value expression, mark ")", role .body statement])

def catchClause : JavaRule :=
  let types := node .catchType (seq plainType (many (seq (operator "|") plainType)))
  node .catchClause (all [keyword "catch", mark "(",
    node .catchParameter (all [optModifiers, types, variableId]), mark ")",
    role .body (call .block)])

def finallyClause : JavaRule :=
  node .finallyClause (seq (keyword "finally") (call .block))

def tryStatement : JavaRule :=
  node .tryStatement (all [keyword "try", role .body (call .block),
    alt (seq (many1 catchClause) (opt finallyClause)) finallyClause])

def tryWithResources : JavaRule :=
  let resource := node .resource (alt
    (all [optModifiers, role .type plainType, variableId, operator "=", role .value expression])
    expression)
  node .tryWithResources (all [keyword "try",
    role .resources (node .resourceSpecification (all [mark "(", resource,
      many (seq (mark ";") resource), opt (mark ";"), mark ")"])),
    role .body (call .block), many catchClause, opt finallyClause])

def jump (kind : Kind) (w : String) : JavaRule :=
  node kind (all [keyword w, opt identifier, mark ";"])

def statementRule : JavaRule :=
  oneOf [
    call .block,
    mark ";",
    node .labeledStatement (all [identifier, operator ":", statement]),
    ifStatement,
    node .returnStatement (all [keyword "return", opt expression, mark ";"]),
    tryWithResources,
    tryStatement,
    whileStatement,
    enhancedForStatement,
    forStatement,
    doStatement,
    throwStatement,
    jump .breakStatement "break",
    jump .continueStatement "continue",
    node .synchronizedStatement (all [keyword "synchronized", parenthesized,
      role .body (call .block)]),
    node .assertStatement (all [keyword "assert", expression,
      opt (seq (operator ":") expression), mark ";"]),
    node .yieldStatement (all [keyword "yield", expression, mark ";"]),
    call .switchExpression,
    call .declaration,
    call .localVariables,
    expressionStatement]

end Statements

section Declarations

def moduleDeclaration : JavaRule :=
  let list (role' : Role) := seq (role role' qualifiedName)
    (many (seq (mark ",") (role role' qualifiedName)))
  let exposing (kind : Kind) (w : String) := node kind (all [keyword w, role .package qualifiedName,
    opt (seq (keyword "to") (list .module)), mark ";"])
  let directive := oneOf [
    node .requiresDirective (all [keyword "requires",
      many (role .modifiers (node .requiresModifier (keywords ["transitive", "static"]))),
      role .module qualifiedName, mark ";"]),
    exposing .exportsDirective "exports",
    exposing .opensDirective "opens",
    node .usesDirective (all [keyword "uses", role .type qualifiedName, mark ";"]),
    node .providesDirective (all [keyword "provides", role .provided qualifiedName, keyword "with",
      list .provider, mark ";"])]
  node .moduleDeclaration (all [annotations, opt (keyword "open"), keyword "module",
    role .name qualifiedName,
    role .body (node .moduleBody (all [openBrace, many directive, closeBrace]))])

def packageDeclaration : JavaRule :=
  node .packageDeclaration (all [annotations, keyword "package", qualifiedName, mark ";"])

def importDeclaration : JavaRule :=
  node .importDeclaration (all [keyword "import", opt (keyword "static"), qualifiedName,
    opt (seq (mark ".") (node .asterisk (mark "*"))), mark ";"])

def classDeclaration : JavaRule :=
  node .classDeclaration (all [optModifiers, keyword "class", role .name anyName, optTypeParameters,
    opt (role .superclass (node .superclass (seq (keyword "extends") type))), superInterfaces,
    permits, role .body (call .classBody)])

def recordDeclaration : JavaRule :=
  node .recordDeclaration (all [optModifiers, keyword "record", role .name anyName,
    optTypeParameters, role .parameters formalParameters, superInterfaces,
    role .body (call .classBody)])

def enumDeclaration : JavaRule :=
  let constant := node .enumConstant (all [optModifiers, role .name identifier, opt arguments,
    opt (role .body (call .classBody))])
  let rest := node .enumBodyDeclarations (seq (mark ";") (many (call .classMember)))
  node .enumDeclaration (all [optModifiers, keyword "enum", role .name anyName, superInterfaces,
    role .body (node .enumBody (all [openBrace, opt (commas constant), opt (mark ","), opt rest,
      closeBrace]))])

def annotationTypeDeclaration : JavaRule :=
  let default := all [keyword "default", role .value (call .elementValue)]
  let element := node .annotationTypeElement (all [optModifiers, role .type plainType,
    role .name anyName, mark "(", mark ")", optDimensions, opt default, mark ";"])
  let member := oneOf [mark ";", element, call .constantDeclaration,
    oneOf ([.classDeclaration, .interfaceDeclaration, .enumDeclaration,
      .annotationTypeDeclaration].map call)]
  node .annotationTypeDeclaration (all [optModifiers, mark "@interface",
    role .name anyName,
    role .body (node .annotationTypeBody (all [openBrace, many member, closeBrace]))])

def interfaceDeclaration : JavaRule :=
  let member := oneOf [mark ";", call .typeDeclaration, call .methodDeclaration,
    call .constantDeclaration]
  node .interfaceDeclaration (all [optModifiers, keyword "interface", role .name anyName,
    optTypeParameters, opt (node .extendsInterfaces (seq (keyword "extends") typeList)), permits,
    role .body (node .interfaceBody (all [openBrace, many member, closeBrace]))])

def methodDeclaration : JavaRule :=
  node .methodDeclaration (all [optModifiers, opt (seq (role .typeParameters typeParameters)
    annotations), role .type plainType, role .name anyName, role .parameters formalParameters,
    optDimensions, throws, alt (role .body (call .block)) (mark ";")])

def constructorDeclaration : JavaRule :=
  let invoked := oneOf [
    seq optTypeArguments (role .constructor (alt this superWord)),
    all [role .object (call (.primary false)), mark ".", optTypeArguments,
      role .constructor superWord]]
  let invocation := node .explicitConstructorInvocation (all [invoked, arguments, mark ";"])
  node .constructorDeclaration (all [optModifiers, optTypeParameters, role .name identifier,
    role .parameters formalParameters, throws,
    role .body
      (node .constructorBody (all [openBrace, opt invocation, many statement, closeBrace]))])

def classMember : JavaRule :=
  oneOf [
    mark ";",
    call .block,
    node .staticInitializer (seq (keyword "static") (call .block)),
    call .typeDeclaration,
    call .methodDeclaration,
    variablesRule .fieldDeclaration,
    constructorDeclaration,
    node .compactConstructorDeclaration (all [optModifiers, role .name identifier,
      role .body (call .block)])]

end Declarations

def rules : Symbol → JavaRule
  | .topLevel => alt statement (call .methodDeclaration)
  | .statement => statementRule
  | .block => node .block (all [openBrace, many statement, closeBrace])
  | .localVariables => variablesRule .localVariableDeclaration
  | .expression arrows =>
    chain (call (.operation 0 arrows))
      [⟨.ternaryExpression, some .condition, [], .ternaryTail arrows⟩]
  | .ternaryTail arrows =>
    all [mark "?", role .consequence expression, operator ":",
      role .alternative (call (.expression arrows))]
  | .operation level arrows => chain (call (.unary arrows)) (operationLinks level arrows)
  | .operationTail o level arrows =>
    seq (role .operator (operator o)) (role .right (call (.operation (level + 1) arrows)))
  | .instanceofTail => instanceofTail
  | .unary arrows => unary arrows
  | .primary arrows => chain (primaryBase arrows) (primaryLinks arrows)
  | .fieldTail =>
    all [mark ".", opt (seq superWord (mark ".")),
      role .field (alt this (name .identifier ["class", "new", "super"]))]
  | .invocationTail =>
    all [mark ".", opt (seq superWord (mark ".")), optTypeArguments, role .name memberName,
      arguments]
  | .indexTail => all [mark "[", role .index expression, mark "]"]
  | .referenceTail =>
    all [operator "::", opt (call .typeArguments), alt (keyword "new") anyName]
  | .creationTail => seq (mark ".") (call .creation)
  | .templateTail => seq (mark ".") (role .templateArgument (call .stringLiteral))
  | .stepTail => operators ["++", "--"]
  | .assignmentTail arrows =>
    seq (role .operator assignmentOperators) (role .right (call (.expression arrows)))
  | .arguments => node .argumentList (all [mark "(", opt (commas expression), mark ")"])
  | .arrayInitializer => arrayInitializer
  | .stringLiteral => stringLiteral
  | .switchExpression => switchExpression
  | .creation => creation
  | .type => alt (node .annotatedType (seq (many1 (call .annotationUse)) plainType)) plainType
  | .plainType => chain (call .simpleType) [⟨.arrayType, some .element, [], .arrayTail⟩]
  | .simpleType => chain simpleTypeBase typeLinks
  | .scopedTail => all [mark ".", annotations, name .typeIdentifier afterDot]
  | .genericTail => typeArguments
  | .arrayTail => role .dimensions (call .dimensions)
  | .typeArguments => typeArguments
  | .dimensions => dimensions
  | .annotationUse => annotationUse
  | .elementValue => elementValue
  | .qualifiedName =>
    chain anyName [⟨.scopedIdentifier, some .scope, [], .qualifiedNameTail⟩]
  | .qualifiedNameTail => seq (mark ".") (role .name anyName)
  | .recordPattern => recordPattern
  | .classBody => node .classBody (all [openBrace, many (call .classMember), closeBrace])
  | .classMember => classMember
  | .constantDeclaration => variablesRule .constantDeclaration
  | .methodDeclaration => methodDeclaration
  | .declaration =>
    oneOf [packageDeclaration, importDeclaration, call .typeDeclaration, moduleDeclaration]
  | .typeDeclaration =>
    oneOf [call .classDeclaration, call .interfaceDeclaration, call .enumDeclaration,
      call .annotationTypeDeclaration, recordDeclaration]
  | .classDeclaration => classDeclaration
  | .interfaceDeclaration => interfaceDeclaration
  | .enumDeclaration => enumDeclaration
  | .annotationTypeDeclaration => annotationTypeDeclaration

end ApiRecovery.Java.Grammar
