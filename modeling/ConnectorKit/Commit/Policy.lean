import ConnectorKit.Failure
import ConnectorKit.Text.Case
import ConnectorKit.Text.Line

/-!
What a commit message has to be: free of banned terms in any letter case, and, where the rules ask
for it, with a first line `type(scope): description`.
-/

set_option autoImplicit false
set_option relaxedAutoImplicit false

namespace ConnectorKit.Commit

/-- The terms that no message may hold, in the order they are looked for. -/
def bannedTerms : List String :=
  ["claude",
   "anthropic",
   "gemini",
   "openai",
   "gpt",
   "chatgpt",
   "co-authored-by: claude",
   "co-authored-by: gemini",
   "co-authored-by: chatgpt",
   "noreply@anthropic.com",
   "noreply@openai.com",
   "🤖 generated",
   "ai-generated",
   "generated with claude",
   "generated with gemini"]

/-- The first banned term that the message holds. -/
def bannedTerm? (message : String) : Option String :=
  let lower := Text.Case.lower message
  bannedTerms.find? (Text.Search.contains lower ·)

/-- Refuses a message with a banned term, whatever the rules say. -/
def checkTerms (message : String) : Except Failure Unit :=
  match bannedTerm? message with
  | some term => .error (.bannedTerm term)
  | none => .ok ()

def types : List String :=
  ["feat", "fix", "docs", "style", "refactor", "perf", "test", "chore"]

/-- Whether a colon, a blank and a description stand first. -/
def describes : List Char → Bool
  | ':' :: ' ' :: _ :: _ => true
  | _ => false

/-- Whether some closing parenthesis is followed by a description. -/
def closesScope : List Char → Bool
  | [] => false
  | c :: rest => (c = ')' && describes rest) || closesScope rest

/-- Whether a description follows, after a scope that is not empty or none. -/
def followsType (text : List Char) : Bool :=
  describes text ||
    match text with
    | '(' :: _ :: rest => closesScope rest
    | _ => false

/-- Whether a line is `type: description` or `type(scope): description`. -/
def isConventional (line : String) : Bool :=
  types.any fun type =>
    match Text.Search.afterChars? type.toList line.toList with
    | some rest => followsType rest
    | none => false

/-- Refuses a first line of another form, where the rules ask for it. -/
def checkForm (conventional : Bool) (message : String) : Except Failure Unit :=
  let line := Text.Line.first message
  if !conventional || isConventional line then .ok () else .error (.formatViolation line)

/-- Both checks of a message. -/
def checkMessage (conventional : Bool) (message : String) : Except Failure Unit := do
  checkTerms message
  checkForm conventional message

end ConnectorKit.Commit
