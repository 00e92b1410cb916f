import Colloquy.Session.Basic

/-!
# Asking for a ranking

`evaluationPrompt` shows a judge the question and numbered responses, and asks for the number of the best one.
-/

namespace Colloquy

/-- What a judge is asked to look at. -/
def criteria : List String := [
  "Relevance to the user's query",
  "Accuracy and correctness",
  "Completeness of the answer",
  "Clarity and coherence",
  "Helpfulness and practical value"]

/-- Lines with a number in front, from a number on. -/
def enumerateLines {α : Type} (line : Nat → α → List String) : Nat → List α → List String
  | _, [] => []
  | n, a :: rest => line n a ++ enumerateLines line (n + 1) rest

/-- The lines on what was asked: the first system message and the last user message. -/
def contextLines (parent : Session) : List String :=
  ((parent.ofRole .system).head?.map fun m => "System Context: " ++ m.content).toList ++
    ((parent.ofRole .user).getLast?.map fun m => "User Query: " ++ m.content).toList

/-- The lines of a response. -/
def responseLines (number : Nat) (outcome : Session) : List String :=
  [s!"--- Response {number} ---", outcome.lastText, ""]

/-- The text that asks a judge for the number of the best response, from one. -/
def evaluationPrompt (parent : Session) (outcomes : List Session) : String :=
  "\n".intercalate (
    ["You are an expert evaluator of AI responses. Your task is to analyze and " ++
      "rank the following responses based on their quality, relevance, " ++
      "completeness, and accuracy.", "", "Context:"] ++
    contextLines parent ++ ["", "Responses to evaluate:"] ++
    enumerateLines responseLines 1 outcomes ++
    ["Please evaluate these responses based on the following criteria:"] ++
    enumerateLines (fun n c => [s!"{n}. {c}"]) 1 criteria ++
    ["", "Return only the number (1-based index) of the best response."])

end Colloquy
