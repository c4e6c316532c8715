import ApiRecovery.Java.Token

/-!
# Concrete trees of Java texts

A tree keeps every token of the text, comments included. `text` is what a tree spells: its tokens
with all that stands between them, but without the white space before the first.
-/

namespace ApiRecovery.Java

/-- What a node is. Keywords and punctuation are `anonymous`; every other kind is named. -/
inductive Kind
  | anonymous | comment
  | program
  | identifier | typeIdentifier | scopedIdentifier | underscorePattern | asterisk
  | numberLiteral | characterLiteral | stringLiteral | textPart | trueLiteral | falseLiteral
  | nullLiteral
  | this | super
  | castExpression | assignmentExpression | binaryExpression | instanceofExpression
  | lambdaExpression | inferredParameters | ternaryExpression | unaryExpression | updateExpression
  | arrayCreationExpression | dimensionsExpression | parenthesizedExpression | classLiteral
  | objectCreationExpression | fieldAccess | templateExpression | arrayAccess | methodInvocation
  | argumentList | methodReference | typeArguments | wildcard | dimensions
  | switchExpression | switchBlock | switchGroup | switchRule | switchLabel
  | pattern | typePattern | recordPattern | recordPatternBody | recordPatternComponent | guard
  | block | expressionStatement | labeledStatement | assertStatement | doStatement | breakStatement
  | continueStatement | returnStatement | yieldStatement | synchronizedStatement | throwStatement
  | tryStatement | catchClause | catchParameter | catchType | finallyClause | tryWithResources
  | resourceSpecification | resource | ifStatement | whileStatement | forStatement
  | enhancedForStatement | localVariableDeclaration
  | annotationMarker | annotationCall | annotationArguments | elementValuePair | elementValueArray
  | moduleDeclaration | moduleBody | requiresDirective | requiresModifier | exportsDirective
  | opensDirective | usesDirective | providesDirective
  | packageDeclaration | importDeclaration
  | enumDeclaration | enumBody | enumBodyDeclarations | enumConstant
  | classDeclaration | classBody | modifiers | typeParameters | typeParameter | typeBound
  | superclass | superInterfaces | typeList | permits | staticInitializer
  | constructorDeclaration | constructorBody | explicitConstructorInvocation
  | compactConstructorDeclaration | fieldDeclaration | recordDeclaration
  | annotationTypeDeclaration | annotationTypeBody | annotationTypeElement
  | interfaceDeclaration | extendsInterfaces | interfaceBody | constantDeclaration
  | variableDeclarator | arrayInitializer
  | annotatedType | scopedTypeIdentifier | genericType | arrayType | integralType
  | floatingPointType | booleanType | voidType
  | formalParameters | formalParameter | receiverParameter | spreadParameter | throws
  | methodDeclaration
  deriving DecidableEq, Repr

inductive Role
  | name | type | body | value | declarator | dimensions | element | operator | left | right
  | pattern | object | field | arguments | typeArguments | typeParameters | parameters | superclass
  | interfaces | permits | condition | consequence | alternative | index | array | key | scope
  | init | update | resources | operand | constructor | templateProcessor | templateArgument
  | modifiers | module | package | provided | provider
  deriving DecidableEq, Repr

inductive Tree
  | leaf (role : Option Role) (kind : Kind) (token : Token)
  | node (role : Option Role) (kind : Kind) (children : List Tree)
  deriving Repr

namespace Tree

def role : Tree → Option Role
  | leaf role _ _ => role
  | node role _ _ => role

def kind : Tree → Kind
  | leaf _ kind _ => kind
  | node _ kind _ => kind

def children : Tree → List Tree
  | leaf _ _ _ => []
  | node _ _ children => children

def isNamed (t : Tree) : Bool :=
  t.kind != .anonymous

def isComment (t : Tree) : Bool :=
  t.kind == .comment

/-- The children that are neither keywords nor punctuation. -/
def namedChildren (t : Tree) : List Tree :=
  t.children.filter isNamed

def child? (t : Tree) (role : Role) : Option Tree :=
  t.children.find? fun c => c.role == some role

def ofKind? (t : Tree) (kind : Kind) : Option Tree :=
  t.namedChildren.find? fun c => c.kind == kind

def isToken (t : Tree) (text : String) : Bool :=
  match t with
  | leaf _ kind token => kind == .anonymous && token.text == text
  | node _ _ _ => false

def hasKeyword (t : Tree) (keyword : String) : Bool :=
  t.children.any fun c => c.isToken keyword

/-- The tree in the part `role`, unless it plays a part already or is a comment. -/
def withRole (role : Role) : Tree → Tree
  | leaf r kind token => leaf (if kind == .comment then r else r.or (some role)) kind token
  | node r kind children => node (r.or (some role)) kind children

mutual

def tokens : Tree → List Token
  | leaf _ _ token => [token]
  | node _ _ children => tokensOfAll children

def tokensOfAll : List Tree → List Token
  | [] => []
  | t :: ts => tokens t ++ tokensOfAll ts

end

theorem tokensOfAll_append (xs ys : List Tree) :
    tokensOfAll (xs ++ ys) = tokensOfAll xs ++ tokensOfAll ys := by
  induction xs with
  | nil => rfl
  | cons x xs ih => simp [tokensOfAll, ih]

@[simp] theorem tokens_withRole (role : Role) (t : Tree) : (t.withRole role).tokens = t.tokens := by
  cases t <;> rfl

/-- What a run of tokens spells, without the white space before the first. -/
def spell : List Token → String
  | [] => ""
  | first :: rest => rest.foldl (fun s t => s ++ t.spelled) first.text

def text (t : Tree) : String :=
  spell t.tokens

end Tree

end ApiRecovery.Java
