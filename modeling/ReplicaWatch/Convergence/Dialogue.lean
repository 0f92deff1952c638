/-! # Dialogues

A dialogue is a finite computation that asks questions of someone else: it is either
over, or it asks one question and goes on with each possible answer. What a dialogue
asks can so be stated for every way in which it may be answered, and it can be run
against anything that answers.
-/

namespace ReplicaWatch

/-- A computation that asks for answers and ends with a result. -/
inductive Dialogue (Question : Type) (Answer : Question → Type) (α : Type) where
  | finish (result : α)
  | ask (question : Question) (next : Answer question → Dialogue Question Answer α)

namespace Dialogue

variable {Question : Type} {Answer : Question → Type} {α : Type}

/-- The result when every question is answered by a fixed table. -/
def resultUnder (answers : (question : Question) → Answer question) :
    Dialogue Question Answer α → α
  | .finish result => result
  | .ask question next => (next (answers question)).resultUnder answers

/-- The questions that are asked when every one is answered by a fixed table. -/
def questionsUnder (answers : (question : Question) → Answer question) :
    Dialogue Question Answer α → List Question
  | .finish _ => []
  | .ask question next => question :: (next (answers question)).questionsUnder answers

end Dialogue

end ReplicaWatch
