import ClawGuard.Approval.Grants

namespace ClawGuard.Telegram

open Approval

/-- One approve/deny button: the decision its press hands the callback, the text of the answer,
and the status line appended to the prompt. -/
structure Button where
  approved : Bool
  ttlSeconds : Nat
  answer : String
  status : String
  deriving DecidableEq, Repr

/-- The `switch (action)` of the `callback_query` handler. -/
def button : String → Option Button
  | "approve_once" => some ⟨true, 1, "✅ Approved once", "✅ *Approved once*"⟩
  | "approve_15m" => some ⟨true, 900, "✅ Approved for 15 minutes", "✅ *Approved for 15min*"⟩
  | "approve_1h" => some ⟨true, 3600, "✅ Approved for 1 hour", "✅ *Approved for 1h*"⟩
  | "approve_8h" => some ⟨true, 28800, "✅ Approved for 8 hours", "✅ *Approved for 8h*"⟩
  | "approve_24h" => some ⟨true, 86400, "✅ Approved for 24 hours", "✅ *Approved for 24h*"⟩
  | "deny" => some ⟨false, 0, "❌ Denied", "❌ *Denied*"⟩
  | _ => none

/-- A `callback_query` handler suspended after calling the callback. -/
inductive Frame
  /-- Awaiting `answerCallbackQuery`; `edit` is the prompt text it writes next. -/
  | answering (edit : String)
  /-- Awaiting `editMessageText(edit)`. -/
  | editing (edit : String)
  deriving DecidableEq, Repr

/-- One approval request, from the notifier's side and from the race in `checkApproval`. -/
structure Prompt where
  /-- `pendingCallbacks` holds this request's callback. -/
  pendingCallback : Bool
  /-- `pendingTexts.get(requestId)`. -/
  pendingText : Option String
  /-- The value of the `requestApproval` promise, once settled. -/
  resolved : Option Decision
  /-- What `Promise.race` handed `checkApproval`. -/
  outcome : Option Decision
  /-- The prompt as the chat shows it. -/
  shown : String
  /-- The texts of `answerCallbackQuery`, in order. -/
  answers : List String
  handlers : List Frame
  deriving DecidableEq, Repr

/-- `requestApproval` as `checkApproval` starts its race: denied at once when pairing is enabled
and the bot is not paired, else the callback and `text` are registered and the prompt is sent. -/
def requestApproval (unpaired : Bool) (text : String) : Prompt :=
  if unpaired then
    { pendingCallback := false, pendingText := none, resolved := some ⟨false, 0, "unpaired"⟩,
      outcome := some ⟨false, 0, "unpaired"⟩, shown := "", answers := [], handlers := [] }
  else
    { pendingCallback := true, pendingText := some text, resolved := none, outcome := none,
      shown := text, answers := [], handlers := [] }

/-- `resolve(value)` of the `requestApproval` promise: the first call wins, and it settles the
race unless the deadline did. -/
def resolve (p : Prompt) (d : Decision) : Prompt :=
  match p.resolved with
  | some _ => p
  | none => { p with resolved := some d, outcome := p.outcome.or (some d) }

/-- `safeSendMessage`: a rejected send is logged and becomes `null`. -/
def safeSendMessage (sendMessage : Except String Unit) : Except String (Option Unit) :=
  match sendMessage with
  | .ok m => .ok (some m)
  | .error _ => .ok none

/-- `pendingCallbacks.delete(requestId); pendingTexts.delete(requestId)`. -/
def forget (p : Prompt) : Prompt := { p with pendingCallback := false, pendingText := none }

/-- The send of the prompt settles; its `.catch` denies the request. -/
def onSent (p : Prompt) (sendMessage : Except String Unit) : Prompt :=
  match safeSendMessage sendMessage with
  | .ok _ => p
  | .error _ => resolve (forget p) ⟨false, 0, "telegram_error"⟩

def timeoutDecision : Decision := ⟨false, 0, "timeout"⟩

/-- The `setTimeout` of `checkApproval`: the race settles with a timeout unless it has settled. -/
def onDeadline (p : Prompt) : Prompt := { p with outcome := p.outcome.or (some timeoutDecision) }

/-- The `callback_query` handler up to its first `await`, for a press by `user`. -/
def onPress (p : Prompt) (authorized : Bool) (action user : String) : Prompt :=
  if !authorized then { p with answers := p.answers ++ ["❌ Not paired. Send /pair <secret> first."] }
  else if !p.pendingCallback then { p with answers := p.answers ++ ["⏰ Request expired"] }
  else
    match button action with
    | some b =>
      let q := resolve p ⟨b.approved, b.ttlSeconds, user⟩
      { q with answers := q.answers ++ [b.answer]
               handlers := q.handlers ++
                 [.answering (p.pendingText.getD "" ++ "\n\n" ++ b.status ++ " by " ++ user)] }
    | none => forget p

/-- The Telegram call awaited by the `i`-th handler settles; a rejection goes to the `catch`,
and the handler ends by deleting the request's entries. -/
def onReply (p : Prompt) (i : Nat) (ok : Bool) : Prompt :=
  match p.handlers.get? i with
  | none => p
  | some (.answering edit) =>
    if ok then { p with handlers := p.handlers.set i (.editing edit) }
    else { forget p with handlers := p.handlers.eraseIdx i }
  | some (.editing edit) =>
    { forget p with shown := if ok then edit else p.shown, handlers := p.handlers.eraseIdx i }

inductive Event
  /-- `bot.sendMessage` of the prompt fulfils or rejects. -/
  | sent (sendMessage : Except String Unit)
  | deadline
  /-- A `callback_query` for this request; `authorized` is the pairing check on its chat. -/
  | press (authorized : Bool) (action user : String)
  | reply (i : Nat) (ok : Bool)

def step (p : Prompt) : Event → Prompt
  | .sent r => onSent p r
  | .deadline => onDeadline p
  | .press authorized action user => onPress p authorized action user
  | .reply i ok => onReply p i ok

def run (p : Prompt) (events : List Event) : Prompt := events.foldl step p

/-- The prompt sent, the deadline passes, then the approver presses "Once": `checkApproval` acted
on a timeout, but the press is answered and the prompt edited as an approval. A failed send is
not denied at once: the request waits for the deadline. Two presses before the first handler
ends: the race took the first, the prompt shows the second. -/
theorem prompt_disagrees_with_outcome :
    (run (requestApproval false "P")
        [.sent (.ok ()), .deadline, .press true "approve_once" "U", .reply 0 true, .reply 0 true]) =
      { pendingCallback := false, pendingText := none, resolved := some ⟨true, 1, "U"⟩,
        outcome := some timeoutDecision, shown := "P\n\n✅ *Approved once* by U",
        answers := ["✅ Approved once"], handlers := [] } ∧
    (run (requestApproval false "P") [.sent (.error "ETIMEDOUT"), .deadline]).outcome =
      some timeoutDecision ∧
    (run (requestApproval false "P")
        [.sent (.ok ()), .press true "approve_24h" "A", .press true "deny" "B",
          .reply 0 true, .reply 0 true, .reply 0 true, .reply 0 true]) =
      { pendingCallback := false, pendingText := none, resolved := some ⟨true, 86400, "A"⟩,
        outcome := some ⟨true, 86400, "A"⟩, shown := "P\n\n❌ *Denied* by B",
        answers := ["✅ Approved for 24 hours", "❌ Denied"], handlers := [] } :=
  ⟨rfl, rfl, rfl⟩

end ClawGuard.Telegram
