import Condense.Turn
import Condense.Number.Layout

/-!
# Prompts

What the summarizing model is told: a system instruction with a limit on the words, and a request
that holds the summary so far and the transcript of the turns to summarize.
-/

namespace Condense.Summary

/-- A section that every summary has to contain. -/
structure Section where
  heading : Text
  items : List Text

def requiredSections : List Section := [
  ⟨"Current State", [
    "What was being discussed or worked on (exact user request if applicable)",
    "Current progress and what has been completed",
    "What was being addressed right now (incomplete work or open thread)",
    "What remains to be done or answered (specific, not vague)"]⟩,
  ⟨"Key Information", [
    "Facts, data, and specific details mentioned (names, dates, numbers, URLs, identifiers)",
    "User preferences, instructions, and constraints stated during the conversation",
    "Definitions, terminology, or domain knowledge established",
    "Any external resources, references, or sources mentioned"]⟩,
  ⟨"Context & Decisions", [
    "Decisions made during the conversation and why",
    "Alternatives that were considered and discarded (and why)",
    "Assumptions made",
    "Important clarifications or corrections that occurred",
    "Any blockers, risks, or open questions identified"]⟩]

def lines (texts : List Text) : Text := Text.join "\n" texts

/-- Paragraphs with an empty line between them. -/
def paragraphs (texts : List Text) : Text := Text.join "\n\n" texts

def Section.text (part : Section) : Text :=
  paragraphs ["## " ++ part.heading, lines (part.items.map fun item => "- " ++ item)]

/-- The last line of the system instruction. -/
def wordLimit (words : Int) : Text :=
  "Keep the summary under " ++ integerText words ++ " words."

/-- The paragraphs of the system instruction in front of the sections. -/
def opening : List Text := [
  "You are summarizing a conversation to preserve context for continuing later.",
  "Critical: This summary will be the ONLY context available when the conversation resumes. " ++
    "Assume all previous messages will be lost. Be thorough.",
  "Required sections:"]

/-- The paragraphs of the system instruction behind the sections. -/
def closing : List Text := [
  "## Exact Next Steps",
  "Be specific. Don't write \"continue with the task\"; write exactly what should happen " ++
    "next, with enough detail that someone reading only this summary can pick up without " ++
    "asking questions.",
  "Tone: Write as if briefing a colleague taking over mid-conversation. Write in the same " ++
    "language as the conversation.",
  "Length: Within the word limit below, err on the side of too much detail rather than too " ++
    "little."]

/-- The system instruction for a summary of at most so many words. -/
def systemPrompt (words : Int) : Text :=
  paragraphs (opening ++ requiredSections.map Section.text ++ closing ++ [wordLimit words])

def transcriptLine? (speaker : Text) : Part → Option Text
  | .text t => if t.isEmpty then none else some (speaker ++ ": " ++ t)
  | .call tool _ => some (speaker ++ ": [called tool: " ++ tool ++ "]")
  | .result tool _ => some (speaker ++ ": [tool " ++ tool ++ " returned a result]")
  | .other _ => none

def transcriptLines (turn : Turn) : List Text :=
  turn.parts.filterMap (transcriptLine? turn.speaker)

def transcript (turns : List Turn) : Text := lines (turns.flatMap transcriptLines)

/-- How the summary so far is presented; nothing if there is none. -/
def previousSection (previous : Text) : List Text :=
  if previous.isEmpty then []
  else [lines ["[Previous summary for context]", previous, "[End previous summary]"],
    "Incorporate the previous summary into your new summary, " ++
      "updating any information that has changed."]

/-- The turns to summarize, as they are presented. -/
def transcriptSection (turns : List Turn) : Text :=
  let transcript := transcript turns
  if transcript.isEmpty then lines ["[Conversation to summarize]", "[End of conversation]"]
  else lines ["[Conversation to summarize]", transcript, "[End of conversation]"]

/-- The request for a summary of some turns that continues an earlier summary. -/
def prompt (turns : List Turn) (previous : Text) : Text :=
  let request : Text := "Provide a detailed summary of the following conversation."
  paragraphs (request :: (previousSection previous ++ [transcriptSection turns])) ++ "\n"

end Condense.Summary
