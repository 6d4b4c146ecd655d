import HandlerGuard.Script.Grammar.Module

namespace HandlerGuard.Script

namespace Parser

def decorated (g : Grammar) (place : Place) : Parser Tree := do
  let start ← here
  let marks ← decorators g
  if ← sees "export" then
    let inner ← here
    exportStatement g inner marks
  else
    let found ← modifiers false false
    allowModifiers found ["declare", "abstract"]
    if ← sees "class" then classStatement g place start marks else fail

def statement (g : Grammar) (place : Place) : Parser Tree := do
  let start ← here
  let t ← current
  let types := (← context).types
  if t.is "\x7b" then block g
  else if t.is ";" then
    bump
    nodeFrom start .statement []
  else if !t.isWord then
    if t.is "@" then decorated g place else expressionOrLabelled g
  else if t.is "if" then ifStatement g
  else if t.is "do" then doStatement g
  else if t.is "while" then whileStatement g
  else if t.is "for" then forStatement g
  else if t.isOneOf ["break", "continue"] then jump
  else if t.is "return" then returnStatement g
  else if t.is "with" then withStatement g
  else if t.is "switch" then switchStatement g
  else if t.is "throw" then throwStatement g
  else if t.is "try" then tryStatement g
  else if t.is "debugger" then
    bump
    semicolon
    nodeFrom start .statement []
  else if t.is "class" then classStatement g place start []
  else if t.is "export" then exportStatement g start []
  else if t.is "import" then
    if (← following).isOneOf ["(", "."] then expressionOrLabelled g else importDeclaration start
  else if t.is "const" then
    if types && (← following).is "enum" then declarationStatement g start
    else variableStatement g place
  else if t.is "var" then variableStatement g place
  else if t.is "let" && !t.escaped then letStatement g place
  else if ← seesFunction then functionStatement g place
  else if ← seesUsing then usingStatement g place
  else if ← seesAwaitUsing then usingStatement g place
  else if types && t.isOneOf declarationWords then
    if ← startsDeclaration then declarationStatement g start else expressionOrLabelled g
  else expressionOrLabelled g

end Parser

namespace Grammar

/-- One rule, with what stands inside it read by `g`. -/
def step (g : Grammar) : Grammar
  | .assignment returnTypes => Parser.assignmentExpression g returnTypes
  | .binary least => Parser.binary g least
  | .unary => Parser.unary g
  | .leftHand => Parser.leftHandSide g
  | .constructed => Parser.constructed g
  | .pattern => Parser.pattern g
  | .type => Parser.type g
  | .typeOperand => Parser.typeOperand g
  | .element child => Parser.markupElement g child
  | .statement place => Parser.statement g place

/-- The rules, standing in one another at most so many times. -/
def within : Nat → Grammar
  | 0 => fun _ => Parser.fail
  | depth + 1 => step (within depth)

end Grammar

end HandlerGuard.Script
