/-!
# Kinds and fields of syntax nodes

A parser names the kind of each node and the field it fills in its parent. The kinds and fields that some analysis
looks at are constructors here; every other name is kept as it is.
-/

namespace ScriptTidy

/-- The kind of a syntax node. -/
inductive Kind where
  | identifier
  | typeIdentifier
  | shorthandPropertyIdentifier
  | shorthandPropertyIdentifierPattern
  | propertyIdentifier
  | statementIdentifier
  | comment
  | stringLiteral
  | regexLiteral
  | program
  | functionDeclaration
  | generatorFunctionDeclaration
  | functionSignature
  | functionExpression
  | functionKeyword
  | generatorFunction
  | arrowFunction
  | methodDefinition
  | classDeclaration
  | abstractClassDeclaration
  | classKeyword
  | statementBlock
  | switchBody
  | switchCase
  | switchDefault
  | classStaticBlock
  | forStatement
  | forInStatement
  | catchClause
  | lexicalDeclaration
  | variableDeclaration
  | variableDeclarator
  | importStatement
  | importClause
  | namespaceImport
  | namedImports
  | importSpecifier
  | importRequireClause
  | exportStatement
  | exportClause
  | namespaceExport
  | enumDeclaration
  | internalModule
  | moduleDeclaration
  | interfaceDeclaration
  | typeAliasDeclaration
  | jsxOpeningElement
  | jsxClosingElement
  | jsxSelfClosingElement
  | requiredParameter
  | optionalParameter
  | decorator
  | thisKeyword
  | objectPattern
  | arrayPattern
  | restPattern
  | pairPattern
  | computedPropertyName
  | objectAssignmentPattern
  | assignmentPattern
  | varKeyword
  | other (name : String)
  deriving DecidableEq, Repr

namespace Kind

/-- The name that the grammars give to a kind. -/
def name : Kind → String
  | identifier => "identifier"
  | typeIdentifier => "type_identifier"
  | shorthandPropertyIdentifier => "shorthand_property_identifier"
  | shorthandPropertyIdentifierPattern => "shorthand_property_identifier_pattern"
  | propertyIdentifier => "property_identifier"
  | statementIdentifier => "statement_identifier"
  | comment => "comment"
  | stringLiteral => "string"
  | regexLiteral => "regex"
  | program => "program"
  | functionDeclaration => "function_declaration"
  | generatorFunctionDeclaration => "generator_function_declaration"
  | functionSignature => "function_signature"
  | functionExpression => "function_expression"
  | functionKeyword => "function"
  | generatorFunction => "generator_function"
  | arrowFunction => "arrow_function"
  | methodDefinition => "method_definition"
  | classDeclaration => "class_declaration"
  | abstractClassDeclaration => "abstract_class_declaration"
  | classKeyword => "class"
  | statementBlock => "statement_block"
  | switchBody => "switch_body"
  | switchCase => "switch_case"
  | switchDefault => "switch_default"
  | classStaticBlock => "class_static_block"
  | forStatement => "for_statement"
  | forInStatement => "for_in_statement"
  | catchClause => "catch_clause"
  | lexicalDeclaration => "lexical_declaration"
  | variableDeclaration => "variable_declaration"
  | variableDeclarator => "variable_declarator"
  | importStatement => "import_statement"
  | importClause => "import_clause"
  | namespaceImport => "namespace_import"
  | namedImports => "named_imports"
  | importSpecifier => "import_specifier"
  | importRequireClause => "import_require_clause"
  | exportStatement => "export_statement"
  | exportClause => "export_clause"
  | namespaceExport => "namespace_export"
  | enumDeclaration => "enum_declaration"
  | internalModule => "internal_module"
  | moduleDeclaration => "module"
  | interfaceDeclaration => "interface_declaration"
  | typeAliasDeclaration => "type_alias_declaration"
  | jsxOpeningElement => "jsx_opening_element"
  | jsxClosingElement => "jsx_closing_element"
  | jsxSelfClosingElement => "jsx_self_closing_element"
  | requiredParameter => "required_parameter"
  | optionalParameter => "optional_parameter"
  | decorator => "decorator"
  | thisKeyword => "this"
  | objectPattern => "object_pattern"
  | arrayPattern => "array_pattern"
  | restPattern => "rest_pattern"
  | pairPattern => "pair_pattern"
  | computedPropertyName => "computed_property_name"
  | objectAssignmentPattern => "object_assignment_pattern"
  | assignmentPattern => "assignment_pattern"
  | varKeyword => "var"
  | other name => name

/-- The kinds with a constructor of their own. -/
def known : List Kind :=
  [identifier, typeIdentifier, shorthandPropertyIdentifier, shorthandPropertyIdentifierPattern,
   propertyIdentifier, statementIdentifier, comment, stringLiteral, regexLiteral, program,
   functionDeclaration, generatorFunctionDeclaration, functionSignature, functionExpression,
   functionKeyword, generatorFunction, arrowFunction, methodDefinition, classDeclaration,
   abstractClassDeclaration, classKeyword, statementBlock, switchBody, switchCase, switchDefault,
   classStaticBlock, forStatement, forInStatement, catchClause, lexicalDeclaration, variableDeclaration,
   variableDeclarator, importStatement, importClause, namespaceImport, namedImports, importSpecifier,
   importRequireClause, exportStatement, exportClause, namespaceExport, enumDeclaration, internalModule,
   moduleDeclaration, interfaceDeclaration, typeAliasDeclaration, jsxOpeningElement, jsxClosingElement,
   jsxSelfClosingElement, requiredParameter, optionalParameter, decorator, thisKeyword, objectPattern,
   arrayPattern, restPattern, pairPattern, computedPropertyName, objectAssignmentPattern, assignmentPattern,
   varKeyword]

/-- The kind of a given name. -/
def ofName (text : String) : Kind := (known.find? (·.name == text)).getD (other text)

theorem name_ofName (text : String) : (ofName text).name = text := by
  rw [ofName]
  cases h : known.find? (·.name == text) with
  | none => rfl
  | some k => simpa using List.find?_some h

end Kind

/-- The field that a node fills in its parent. -/
inductive Field where
  | name
  | parameter
  | parameters
  | body
  | kind
  | left
  | value
  | declaration
  | source
  | asName
  | pattern
  | other (text : String)
  deriving DecidableEq, Repr

namespace Field

/-- The name that the grammars give to a field. -/
def text : Field → String
  | name => "name"
  | parameter => "parameter"
  | parameters => "parameters"
  | body => "body"
  | kind => "kind"
  | left => "left"
  | value => "value"
  | declaration => "declaration"
  | source => "source"
  | asName => "alias"
  | pattern => "pattern"
  | other text => text

/-- The fields with a constructor of their own. -/
def known : List Field :=
  [name, parameter, parameters, body, kind, left, value, declaration, source, asName, pattern]

/-- The field of a given name. -/
def ofText (text : String) : Field := (known.find? (·.text == text)).getD (other text)

theorem text_ofText (text : String) : (ofText text).text = text := by
  rw [ofText]
  cases h : known.find? (·.text == text) with
  | none => rfl
  | some f => simpa using List.find?_some h

end Field

end ScriptTidy
