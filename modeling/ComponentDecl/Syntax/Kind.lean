import ComponentDecl.Text

/-!
# Kinds and fields

A named node of a syntax tree has a kind, and a node or token may fill a field
of the node above it.  The names given here are the ones that users see.
-/

namespace ComponentDecl

/-- The kinds of named nodes. -/
inductive Kind where
  | program
  | hashBangLine
  | exportStatement
  | namespaceExport
  | exportClause
  | exportSpecifier
  | importWord
  | importStatement
  | importClause
  | namespaceImport
  | namedImports
  | importSpecifier
  | importAttribute
  | expressionStatement
  | variableDeclaration
  | lexicalDeclaration
  | variableDeclarator
  | statementBlock
  | elseClause
  | ifStatement
  | switchStatement
  | forStatement
  | forInStatement
  | whileStatement
  | doStatement
  | tryStatement
  | withStatement
  | breakStatement
  | continueStatement
  | debuggerStatement
  | returnStatement
  | throwStatement
  | emptyStatement
  | labeledStatement
  | switchBody
  | switchCase
  | switchDefault
  | catchClause
  | finallyClause
  | parenthesizedExpression
  | yieldExpression
  | object
  | objectPattern
  | assignmentPattern
  | objectAssignmentPattern
  | array
  | arrayPattern
  | glimmerTemplate
  | glimmerOpeningTag
  | glimmerClosingTag
  | jsxElement
  | jsxText
  | htmlCharacterReference
  | jsxExpression
  | jsxOpeningElement
  | jsxNamespaceName
  | jsxClosingElement
  | jsxSelfClosingElement
  | jsxAttribute
  | classExpression
  | classDeclaration
  | classHeritage
  | functionExpression
  | functionDeclaration
  | generatorFunction
  | generatorFunctionDeclaration
  | arrowFunction
  | optionalChain
  | callExpression
  | newExpression
  | awaitExpression
  | memberExpression
  | subscriptExpression
  | assignmentExpression
  | augmentedAssignmentExpression
  | spreadElement
  | ternaryExpression
  | binaryExpression
  | unaryExpression
  | updateExpression
  | sequenceExpression
  | string
  | stringFragment
  | escapeSequence
  | comment
  | htmlComment
  | templateString
  | templateSubstitution
  | regex
  | regexPattern
  | regexFlags
  | number
  | identifier
  | privatePropertyIdentifier
  | propertyIdentifier
  | statementIdentifier
  | shorthandPropertyIdentifier
  | shorthandPropertyIdentifierPattern
  | metaProperty
  | thisWord
  | superWord
  | trueWord
  | falseWord
  | nullWord
  | undefinedWord
  | arguments
  | decorator
  | classBody
  | fieldDefinition
  | formalParameters
  | classStaticBlock
  | restPattern
  | methodDefinition
  | pair
  | pairPattern
  | computedPropertyName
  | error
  deriving DecidableEq, Repr

namespace Kind

/-- The name under which a kind is shown. -/
def spelling : Kind → Text
  | .program => "program"
  | .hashBangLine => "hash_bang_line"
  | .exportStatement => "export_statement"
  | .namespaceExport => "namespace_export"
  | .exportClause => "export_clause"
  | .exportSpecifier => "export_specifier"
  | .importWord => "import"
  | .importStatement => "import_statement"
  | .importClause => "import_clause"
  | .namespaceImport => "namespace_import"
  | .namedImports => "named_imports"
  | .importSpecifier => "import_specifier"
  | .importAttribute => "import_attribute"
  | .expressionStatement => "expression_statement"
  | .variableDeclaration => "variable_declaration"
  | .lexicalDeclaration => "lexical_declaration"
  | .variableDeclarator => "variable_declarator"
  | .statementBlock => "statement_block"
  | .elseClause => "else_clause"
  | .ifStatement => "if_statement"
  | .switchStatement => "switch_statement"
  | .forStatement => "for_statement"
  | .forInStatement => "for_in_statement"
  | .whileStatement => "while_statement"
  | .doStatement => "do_statement"
  | .tryStatement => "try_statement"
  | .withStatement => "with_statement"
  | .breakStatement => "break_statement"
  | .continueStatement => "continue_statement"
  | .debuggerStatement => "debugger_statement"
  | .returnStatement => "return_statement"
  | .throwStatement => "throw_statement"
  | .emptyStatement => "empty_statement"
  | .labeledStatement => "labeled_statement"
  | .switchBody => "switch_body"
  | .switchCase => "switch_case"
  | .switchDefault => "switch_default"
  | .catchClause => "catch_clause"
  | .finallyClause => "finally_clause"
  | .parenthesizedExpression => "parenthesized_expression"
  | .yieldExpression => "yield_expression"
  | .object => "object"
  | .objectPattern => "object_pattern"
  | .assignmentPattern => "assignment_pattern"
  | .objectAssignmentPattern => "object_assignment_pattern"
  | .array => "array"
  | .arrayPattern => "array_pattern"
  | .glimmerTemplate => "glimmer_template"
  | .glimmerOpeningTag => "glimmer_opening_tag"
  | .glimmerClosingTag => "glimmer_closing_tag"
  | .jsxElement => "jsx_element"
  | .jsxText => "jsx_text"
  | .htmlCharacterReference => "html_character_reference"
  | .jsxExpression => "jsx_expression"
  | .jsxOpeningElement => "jsx_opening_element"
  | .jsxNamespaceName => "jsx_namespace_name"
  | .jsxClosingElement => "jsx_closing_element"
  | .jsxSelfClosingElement => "jsx_self_closing_element"
  | .jsxAttribute => "jsx_attribute"
  | .classExpression => "class"
  | .classDeclaration => "class_declaration"
  | .classHeritage => "class_heritage"
  | .functionExpression => "function_expression"
  | .functionDeclaration => "function_declaration"
  | .generatorFunction => "generator_function"
  | .generatorFunctionDeclaration => "generator_function_declaration"
  | .arrowFunction => "arrow_function"
  | .optionalChain => "optional_chain"
  | .callExpression => "call_expression"
  | .newExpression => "new_expression"
  | .awaitExpression => "await_expression"
  | .memberExpression => "member_expression"
  | .subscriptExpression => "subscript_expression"
  | .assignmentExpression => "assignment_expression"
  | .augmentedAssignmentExpression => "augmented_assignment_expression"
  | .spreadElement => "spread_element"
  | .ternaryExpression => "ternary_expression"
  | .binaryExpression => "binary_expression"
  | .unaryExpression => "unary_expression"
  | .updateExpression => "update_expression"
  | .sequenceExpression => "sequence_expression"
  | .string => "string"
  | .stringFragment => "string_fragment"
  | .escapeSequence => "escape_sequence"
  | .comment => "comment"
  | .htmlComment => "html_comment"
  | .templateString => "template_string"
  | .templateSubstitution => "template_substitution"
  | .regex => "regex"
  | .regexPattern => "regex_pattern"
  | .regexFlags => "regex_flags"
  | .number => "number"
  | .identifier => "identifier"
  | .privatePropertyIdentifier => "private_property_identifier"
  | .propertyIdentifier => "property_identifier"
  | .statementIdentifier => "statement_identifier"
  | .shorthandPropertyIdentifier => "shorthand_property_identifier"
  | .shorthandPropertyIdentifierPattern => "shorthand_property_identifier_pattern"
  | .metaProperty => "meta_property"
  | .thisWord => "this"
  | .superWord => "super"
  | .trueWord => "true"
  | .falseWord => "false"
  | .nullWord => "null"
  | .undefinedWord => "undefined"
  | .arguments => "arguments"
  | .decorator => "decorator"
  | .classBody => "class_body"
  | .fieldDefinition => "field_definition"
  | .formalParameters => "formal_parameters"
  | .classStaticBlock => "class_static_block"
  | .restPattern => "rest_pattern"
  | .methodDefinition => "method_definition"
  | .pair => "pair"
  | .pairPattern => "pair_pattern"
  | .computedPropertyName => "computed_property_name"
  | .error => "ERROR"

end Kind

/-- The fields that a child can fill in its parent. -/
inductive Field where
  | decorator
  | declaration
  | value
  | name
  | alias
  | source
  | kind
  | condition
  | consequence
  | alternative
  | initializer
  | increment
  | body
  | left
  | operator
  | right
  | handler
  | finalizer
  | object
  | label
  | parameter
  | parameters
  | key
  | openTag
  | closeTag
  | elementAttribute
  | callee
  | arguments
  | optionalChain
  | constructed
  | property
  | index
  | argument
  | pattern
  | flags
  | member
  | template
  deriving DecidableEq, Repr

namespace Field

def spelling : Field → Text
  | .decorator => "decorator"
  | .declaration => "declaration"
  | .value => "value"
  | .name => "name"
  | .alias => "alias"
  | .source => "source"
  | .kind => "kind"
  | .condition => "condition"
  | .consequence => "consequence"
  | .alternative => "alternative"
  | .initializer => "initializer"
  | .increment => "increment"
  | .body => "body"
  | .left => "left"
  | .operator => "operator"
  | .right => "right"
  | .handler => "handler"
  | .finalizer => "finalizer"
  | .object => "object"
  | .label => "label"
  | .parameter => "parameter"
  | .parameters => "parameters"
  | .key => "key"
  | .openTag => "open_tag"
  | .closeTag => "close_tag"
  | .elementAttribute => "attribute"
  | .callee => "function"
  | .arguments => "arguments"
  | .optionalChain => "optional_chain"
  | .constructed => "constructor"
  | .property => "property"
  | .index => "index"
  | .argument => "argument"
  | .pattern => "pattern"
  | .flags => "flags"
  | .member => "member"
  | .template => "template"

def all : List Field :=
  [.decorator, .declaration, .value, .name, .alias, .source, .kind, .condition, .consequence,
   .alternative, .initializer, .increment, .body, .left, .operator, .right, .handler,
   .finalizer, .object, .label, .parameter, .parameters, .key, .openTag, .closeTag,
   .elementAttribute, .callee, .arguments, .optionalChain, .constructed, .property, .index,
   .argument, .pattern, .flags, .member, .template]

def ofSpelling? (t : Text) : Option Field :=
  all.find? fun f => f.spelling == t

end Field
end ComponentDecl
