/-
The catalog of ECMAScript syntax trees.

The nodes form a hierarchy: every node matches `Node`, and most are statements, declarations,
expressions or patterns.  An entry names the families that its nodes belong to and gives the
fields that a node has on top of theirs.  All these fields are required, though many may be null.

* A `tagged` entry is for the nodes whose `type` is the name of the entry.
* An `untagged` entry does not look at the `type`.
* A `family` has no fields of its own, and a `synonym` is another name for a family.
* A `record` is an object that is no node; its fields are not required.

The catalog comes as a text of definitions, and these entries are what that text is imported as
(`EcmaScript.exists_importText_source`).
-/
import TreeSchema.Registry.Basic

namespace TreeSchema

namespace EcmaScript

/-! ### What fields hold -/

/-- A node of a family. -/
def a (name : String) : Schema := .ref name

def text : Schema := .ofKind .string

def boolean : Schema := .ofKind .boolean

def integer : Schema := .ofKind .integer

def number : Schema := .ofKind .number

/-- An integer that is not below a bound. -/
def atLeast (bound : Nat) : Schema :=
  .leaf { kind := some .integer, minimum := some (Binary64.ofNat bound) }

/-- The given text. -/
def exactly (word : String) : Schema :=
  .leaf { kind := some .string, pattern := some (.exact word) }

/-- One of some texts. -/
def word (choices : List String) : Schema := .leaf { choices := some (choices.map Json.string) }

def optional (s : Schema) : Schema := s.nullable

def oneOf (parts : List Schema) : Schema := .anyOf parts

def listOf (item : Schema) : Schema := .array (some item) none none

def record (fields : List (String × Schema)) : Schema := .object fields []

/-! ### Entries -/

/-- An entry whose identity is its name. -/
def entry (name : String) (s : Schema) : String × SchemaEntry := (name, ⟨some name, s⟩)

/-- The nodes that belong to all of some families and have certain fields. -/
def untagged (name : String) (families : List String) (fields : List (String × Schema)) :
    String × SchemaEntry :=
  entry name (.allOf (families.map a ++ [.object fields (fields.map Prod.fst)]))

/-- The nodes with a name as `type` that belong to all of some families and have certain
fields. -/
def tagged (name : String) (families : List String) (fields : List (String × Schema)) :
    String × SchemaEntry :=
  entry name (.allOf (families.map a ++
    [.object (("type", exactly name) :: fields) (fields.map Prod.fst)]))

/-- The nodes that belong to all of some families. -/
def family (name : String) (families : List String) : String × SchemaEntry :=
  entry name (.allOf (families.map a))

/-- Another name for a family. -/
def synonym (name other : String) : String × SchemaEntry := entry name (a other)

/-- The operators of a group. -/
def words (name : String) (choices : List String) : String × SchemaEntry :=
  entry name (.leaf { kind := some .string, choices := some (choices.map Json.string) })

/-- Nodes in general, places in the text of a program, programs and functions. -/
def general : List (String × SchemaEntry) :=
  [entry "Node" (.object [("type", text), ("loc", optional (a "SourceLocation"))] ["type"]),
   entry "SourceLocation" (.object
      [("source", optional text), ("start", a "Position"), ("end", a "Position")] ["start", "end"]),
   entry "Position" (.object [("line", atLeast 1), ("column", atLeast 0)] ["line", "column"]),
   tagged "Program" ["Node"] [("body", listOf (a "Statement"))],
   untagged "Function" ["Node"]
      [("id", optional (a "Identifier")), ("params", listOf (a "Pattern")),
       ("defaults", listOf (a "Expression")), ("rest", optional (a "Identifier")),
       ("body", oneOf [a "BlockStatement", a "Expression"]), ("generator", boolean),
       ("expression", boolean)]]

/-- Statements. -/
def statements : List (String × SchemaEntry) :=
  [synonym "Statement" "Node",
   tagged "EmptyStatement" ["Statement"] [],
   tagged "BlockStatement" ["Statement"] [("body", listOf (a "Statement"))],
   tagged "ExpressionStatement" ["Statement"] [("expression", a "Expression")],
   tagged "IfStatement" ["Statement"]
      [("test", a "Expression"), ("consequent", a "Statement"),
       ("alternate", optional (a "Statement"))],
   tagged "LabeledStatement" ["Statement"] [("label", a "Identifier"), ("body", a "Statement")],
   tagged "BreakStatement" ["Statement"] [("label", optional (a "Identifier"))],
   tagged "ContinueStatement" ["Statement"] [("label", optional (a "Identifier"))],
   tagged "WithStatement" ["Statement"] [("object", a "Expression"), ("body", a "Statement")],
   tagged "SwitchStatement" ["Statement"]
      [("discriminant", a "Expression"), ("cases", listOf (a "SwitchCase")), ("lexical", boolean)],
   tagged "ReturnStatement" ["Statement"] [("argument", optional (a "Expression"))],
   tagged "ThrowStatement" ["Statement"] [("argument", a "Expression")],
   tagged "TryStatement" ["Statement"]
      [("block", a "BlockStatement"), ("handler", optional (a "CatchClause")),
       ("guardedHandlers", listOf (a "CatchClause")), ("finalizer", optional (a "BlockStatement"))],
   tagged "WhileStatement" ["Statement"] [("test", a "Expression"), ("body", a "Statement")],
   tagged "DoWhileStatement" ["Statement"] [("body", a "Statement"), ("test", a "Expression")],
   tagged "ForStatement" ["Statement"]
      [("init", oneOf [a "VariableDeclaration", a "Expression", Schema.null]),
       ("test", optional (a "Expression")), ("update", optional (a "Expression")),
       ("body", a "Statement")],
   tagged "ForInStatement" ["Statement"]
      [("left", oneOf [a "VariableDeclaration", a "Expression"]), ("right", a "Expression"),
       ("body", a "Statement"), ("each", boolean)],
   tagged "ForOfStatement" ["Statement"]
      [("left", oneOf [a "VariableDeclaration", a "Expression"]), ("right", a "Expression"),
       ("body", a "Statement")],
   tagged "LetStatement" ["Statement"]
      [("head", listOf (record [("id", a "Pattern"), ("init", optional (a "Expression"))])),
       ("body", a "Statement")],
   tagged "DebuggerStatement" ["Statement"] []]

/-- Declarations. -/
def declarations : List (String × SchemaEntry) :=
  [synonym "Declaration" "Statement",
   tagged "FunctionDeclaration" ["Function", "Declaration"]
      [("id", a "Identifier"), ("params", listOf (a "Pattern")),
       ("defaults", listOf (a "Expression")), ("rest", optional (a "Identifier")),
       ("body", oneOf [a "BlockStatement", a "Expression"]), ("generator", boolean),
       ("expression", boolean)],
   tagged "VariableDeclaration" ["Declaration"]
      [("declarations", listOf (a "VariableDeclarator")), ("kind", word ["var", "let", "const"])],
   tagged "VariableDeclarator" ["Node"]
      [("id", a "Pattern"), ("init", optional (a "Expression"))]]

/-- Expressions. -/
def expressions : List (String × SchemaEntry) :=
  [family "Expression" ["Node", "Pattern"],
   tagged "ThisExpression" ["Expression"] [],
   tagged "ArrayExpression" ["Expression"] [("elements", listOf (optional (a "Expression")))],
   tagged "ObjectExpression" ["Expression"]
      [("properties", listOf (record
        [("key", oneOf [a "Literal", a "Identifier"]), ("value", a "Expression"),
         ("kind", word ["init", "get", "set"])]))],
   tagged "FunctionExpression" ["Function", "Expression"]
      [("id", optional (a "Identifier")), ("params", listOf (a "Pattern")),
       ("defaults", listOf (a "Expression")), ("rest", optional (a "Identifier")),
       ("body", oneOf [a "BlockStatement", a "Expression"]), ("generator", boolean),
       ("expression", boolean)],
   tagged "ArrowExpression" ["Function", "Expression"]
      [("params", listOf (a "Pattern")), ("defaults", listOf (a "Expression")),
       ("rest", optional (a "Identifier")), ("body", oneOf [a "BlockStatement", a "Expression"]),
       ("generator", boolean), ("expression", boolean)],
   tagged "SequenceExpression" ["Expression"] [("expressions", listOf (a "Expression"))],
   tagged "UnaryExpression" ["Expression"]
      [("operator", a "UnaryOperator"), ("prefix", boolean), ("argument", a "Expression")],
   tagged "BinaryExpression" ["Expression"]
      [("operator", a "BinaryOperator"), ("left", a "Expression"), ("right", a "Expression")],
   tagged "AssignmentExpression" ["Expression"]
      [("operator", a "AssignmentOperator"), ("left", a "Expression"), ("right", a "Expression")],
   tagged "UpdateExpression" ["Expression"]
      [("operator", a "UpdateOperator"), ("argument", a "Expression"), ("prefix", boolean)],
   tagged "LogicalExpression" ["Expression"]
      [("operator", a "LogicalOperator"), ("left", a "Expression"), ("right", a "Expression")],
   tagged "ConditionalExpression" ["Expression"]
      [("test", a "Expression"), ("alternate", a "Expression"), ("consequent", a "Expression")],
   tagged "NewExpression" ["Expression"]
      [("callee", a "Expression"), ("arguments", listOf (a "Expression"))],
   tagged "CallExpression" ["Expression"]
      [("callee", a "Expression"), ("arguments", listOf (a "Expression"))],
   tagged "MemberExpression" ["Expression"]
      [("object", a "Expression"), ("property", oneOf [a "Identifier", a "Expression"]),
       ("computed", boolean)],
   untagged "YieldExpression" ["Expression"] [("argument", optional (a "Expression"))],
   untagged "ComprehensionExpression" ["Expression"]
      [("body", a "Expression"), ("blocks", listOf (a "ComprehensionBlock")),
       ("filter", optional (a "Expression"))],
   untagged "GeneratorExpression" ["Expression"]
      [("body", a "Expression"), ("blocks", listOf (a "ComprehensionBlock")),
       ("filter", optional (a "Expression"))],
   untagged "GraphExpression" ["Expression"] [("index", integer), ("expression", a "Literal")],
   untagged "GraphIndexExpression" ["Expression"] [("index", integer)],
   tagged "LetExpression" ["Expression"]
      [("head", listOf (record [("id", a "Pattern"), ("init", optional (a "Expression"))])),
       ("body", a "Expression")]]

/-- Patterns. -/
def patterns : List (String × SchemaEntry) :=
  [synonym "Pattern" "Node",
   tagged "ObjectPattern" ["Pattern"]
      [("properties", listOf (record [("key", a "Literal"), ("value", a "Pattern")]))],
   tagged "ArrayPattern" ["Pattern"] [("elements", listOf (optional (a "Pattern")))]]

/-- Parts of statements and expressions. -/
def clauses : List (String × SchemaEntry) :=
  [tagged "SwitchCase" ["Node"]
      [("test", optional (a "Expression")), ("consequent", listOf (a "Statement"))],
   tagged "CatchClause" ["Node"]
      [("param", a "Pattern"), ("guard", optional (a "Expression")), ("body", a "BlockStatement")],
   untagged "ComprehensionBlock" ["Node"]
      [("left", a "Pattern"), ("right", a "Expression"), ("each", boolean)]]

/-- Identifiers and literals. -/
def leaves : List (String × SchemaEntry) :=
  [tagged "Identifier" ["Node", "Expression", "Pattern"] [("name", text)],
   tagged "Literal" ["Node", "Expression"]
      [("value", oneOf [text, boolean, Schema.null, number])]]

/-- XML in programs. -/
def markup : List (String × SchemaEntry) :=
  [tagged "XMLDefaultDeclaration" ["Declaration"] [("namespace", a "Expression")],
   tagged "XMLAnyName" ["Expression"] [],
   tagged "XMLQualifiedIdentifier" ["Expression"]
      [("left", oneOf [a "Identifier", a "XMLAnyName"]),
       ("right", oneOf [a "Identifier", a "Expression"]), ("computed", boolean)],
   tagged "XMLFunctionQualifiedIdentifier" ["Expression"]
      [("right", oneOf [a "Identifier", a "Expression"]), ("computed", boolean)],
   tagged "XMLAttributeSelector" ["Expression"] [("attribute", a "Expression")],
   tagged "XMLFilterExpression" ["Expression"]
      [("left", a "Expression"), ("right", a "Expression")],
   tagged "XMLElement" ["XML", "Expression"] [("contents", listOf (a "XML"))],
   tagged "XMLList" ["XML", "Expression"] [("contents", listOf (a "XML"))],
   synonym "XML" "Node",
   untagged "XMLEscape" ["XML"] [("expression", a "Expression")],
   tagged "XMLText" ["XML"] [("text", text)],
   tagged "XMLStartTag" ["XML"] [("contents", listOf (a "XML"))],
   tagged "XMLEndTag" ["XML"] [("contents", listOf (a "XML"))],
   tagged "XMLPointTag" ["XML"] [("contents", listOf (a "XML"))],
   tagged "XMLName" ["XML"] [("contents", oneOf [text, listOf (a "XML")])],
   tagged "XMLAttribute" ["XML"] [("value", text)],
   tagged "XMLCdata" ["XML"] [("contents", text)],
   tagged "XMLComment" ["XML"] [("contents", text)],
   tagged "XMLProcessingInstruction" ["XML"] [("target", text), ("contents", optional text)]]

/-- Operators. -/
def operators : List (String × SchemaEntry) :=
  [words "UnaryOperator" ["-", "+", "!", "~", "typeof", "void", "delete"],
   words "BinaryOperator"
      ["==", "!=", "===", "!==", "<", "<=", ">", ">=", "<<", ">>", ">>>", "+", "-", "*", "/", "%",
       "|", "^", "&", "in", "instanceof", ".."],
   words "LogicalOperator" ["||", "&&"],
   words "AssignmentOperator"
      ["=", "+=", "-=", "*=", "/=", "%=", "<<=", ">>=", ">>>=", "|=", "^=", "&="],
   words "UpdateOperator" ["++", "--"]]

/-- All entries. -/
def entries : List (String × SchemaEntry) :=
  general ++ statements ++ declarations ++ expressions ++ patterns ++ clauses ++ leaves ++
    markup ++ operators

end EcmaScript

/-- The registry of ECMAScript syntax trees. -/
def Registry.ecmaScript : Registry := ⟨EcmaScript.entries⟩

end TreeSchema
