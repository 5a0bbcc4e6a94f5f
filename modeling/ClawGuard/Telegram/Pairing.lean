import ClawGuard.Telegram

namespace ClawGuard.Telegram

/-- `config.pairing`. -/
structure PairingConfig where
  enabled : Bool
  secret : String
  deriving DecidableEq, Repr

/-- The fields of `TelegramConfig` that the pairing handlers and `requestApproval` read. -/
structure TelegramConfig where
  chatId : String
  pairing : PairingConfig
  deriving DecidableEq, Repr

/-- A row of `telegram_paired_users`, stored under its `chat_id`. -/
structure PairedUser where
  userName : String
  /-- `paired_at`: the time of the `/pair`. -/
  pairedAt : Nat
  deriving DecidableEq, Repr

/-- The notifier's `paired` flag beside the audit store's `telegram_paired_users` table, and the
messages handed to `safeSendMessage` as (chat id, text). -/
structure Pairing where
  paired : Bool
  users : Js.Map PairedUser
  sent : List (String × String)

/-- `audit.isPairedUser(chatId)`. -/
def isPairedUser (users : Js.Map PairedUser) (chatId : String) : Bool := (users.get chatId).isSome

/-- The constructor: with pairing enabled the flag starts as `isPairedUser(config.chatId)`,
otherwise as `true`. -/
def Pairing.init (config : TelegramConfig) (users : Js.Map PairedUser) : Pairing :=
  { paired := if config.pairing.enabled then isPairedUser users config.chatId else true,
    users, sent := [] }

def Pairing.send (s : Pairing) (chatId text : String) : Pairing :=
  { s with sent := s.sent ++ [(chatId, text)] }

/-- The `/\/pair\s+(.+)/` handler; `capture` is `match[1]`. -/
def onPair (config : TelegramConfig) (s : Pairing) (chatId capture : String)
    (firstName username : Option String) (now : Nat) : Pairing :=
  let providedSecret := Js.trim capture
  let userName := Js.orElse (firstName.getD "") (Js.orElse (username.getD "") "unknown")
  if !config.pairing.enabled then s.send chatId "⚠️ Pairing is disabled in configuration."
  else if providedSecret = config.pairing.secret then
    { s with users := s.users.set chatId ⟨userName, now⟩, paired := true }.send chatId
      ("✅ *Paired successfully!*\n\nHi " ++ userName ++
        ", you are now authorized to approve/deny ClawGuard requests from this chat.")
  else s.send chatId "❌ Wrong pairing secret. Check your clawguard.yaml config."

/-- The `/\/unpair/` handler: it deletes the sender's row and clears the flag, whoever sent it. -/
def onUnpair (s : Pairing) (chatId : String) : Pairing :=
  { s with users := s.users.delete chatId, paired := false }.send chatId
    "🔓 Unpaired. You will no longer receive approval requests."

/-- The `/\/status/` handler. -/
def onStatus (s : Pairing) (chatId : String) : Pairing :=
  s.send chatId ("🛡️ *ClawGuard Status*\n\nPairing: " ++
    if isPairedUser s.users chatId then "✅ Paired" else "❌ Not paired")

/-- A message matched by one of the three `onText` handlers, with the chat it came from. -/
inductive Command
  | pair (chatId capture : String) (firstName username : Option String) (now : Nat)
  | unpair (chatId : String)
  | status (chatId : String)
  deriving DecidableEq, Repr

def Command.chatId : Command → String
  | .pair chatId .. | .unpair chatId | .status chatId => chatId

def handle (config : TelegramConfig) (s : Pairing) : Command → Pairing
  | .pair chatId capture firstName username now => onPair config s chatId capture firstName username now
  | .unpair chatId => onUnpair s chatId
  | .status chatId => onStatus s chatId

def runCommands (config : TelegramConfig) (s : Pairing) (commands : List Command) : Pairing :=
  commands.foldl (handle config) s

/-- The test at the top of `requestApproval`: `config.pairing.enabled && !this.paired`. -/
def Pairing.unpaired (config : TelegramConfig) (s : Pairing) : Bool :=
  config.pairing.enabled && !s.paired

/-- The commands that write the flag and the table: `/pair` and `/unpair`. -/
def Command.writes : Command → Bool
  | .status _ => false
  | _ => true

@[simp] theorem Pairing.send_paired (s : Pairing) (chatId text : String) :
    (s.send chatId text).paired = s.paired := rfl

@[simp] theorem Pairing.send_users (s : Pairing) (chatId text : String) :
    (s.send chatId text).users = s.users := rfl

/-- What one handler can do to the flag and the table: nothing, pair the sender (only with
pairing enabled), or unpair the sender. -/
theorem handle_cases (config : TelegramConfig) (s : Pairing) (cmd : Command) :
    ((handle config s cmd).paired = s.paired ∧ (handle config s cmd).users = s.users) ∨
    (∃ row, (handle config s cmd).users = s.users.set cmd.chatId row ∧
      (handle config s cmd).paired = true ∧ config.pairing.enabled = true ∧ cmd.writes = true) ∨
    ((handle config s cmd).users = s.users.delete cmd.chatId ∧ (handle config s cmd).paired = false ∧
      cmd.writes = true) := by
  cases cmd with
  | pair chatId capture firstName username now =>
    simp only [handle, onPair]
    split_ifs with hoff hsecret
    · exact .inl ⟨rfl, rfl⟩
    · exact .inr (.inl ⟨_, rfl, rfl, by simpa using hoff, rfl⟩)
    · exact .inl ⟨rfl, rfl⟩
  | unpair chatId => exact .inr (.inr ⟨rfl, rfl, rfl⟩)
  | status chatId => exact .inl ⟨rfl, rfl⟩

/-- With pairing enabled the flag says whether the configured chat is paired: the invariant the
constructor sets up. -/
def Consistent (config : TelegramConfig) (s : Pairing) : Prop :=
  config.pairing.enabled = true → s.paired = isPairedUser s.users config.chatId

theorem init_consistent (config : TelegramConfig) (users : Js.Map PairedUser) :
    Consistent config (Pairing.init config users) := by
  intro h
  simp [Pairing.init, h]

/-- `/status` from any chat, and `/pair` or `/unpair` from the configured chat, keep the flag in
step with the table. -/
theorem handle_consistent {config : TelegramConfig} {s : Pairing} (h : Consistent config s)
    {cmd : Command} (hcmd : cmd.writes = true → cmd.chatId = config.chatId) :
    Consistent config (handle config s cmd) := by
  intro hon
  rcases handle_cases config s cmd with ⟨hp, hu⟩ | ⟨row, hu, hp, -, hw⟩ | ⟨hu, hp, hw⟩
  · rw [hp, hu]; exact h hon
  all_goals simp [isPairedUser, hu, hp, ← hcmd hw]

theorem runCommands_consistent {config : TelegramConfig} {s : Pairing} (h : Consistent config s)
    {commands : List Command} (hc : ∀ cmd ∈ commands, cmd.writes = true → cmd.chatId = config.chatId) :
    Consistent config (runCommands config s commands) := by
  induction commands generalizing s with
  | nil => exact h
  | cons cmd rest ih =>
    simp only [List.mem_cons, forall_eq_or_imp] at hc
    exact ih (handle_consistent h hc.1) hc.2

/-- On a consistent state `requestApproval` answers `unpaired` without prompting exactly when
pairing is enabled and the configured chat is not paired. -/
theorem requestApproval_unpaired {config : TelegramConfig} {s : Pairing} (h : Consistent config s)
    (text : String) :
    (requestApproval (s.unpaired config) text).resolved =
      if config.pairing.enabled && !isPairedUser s.users config.chatId then
        some ⟨false, 0, "unpaired"⟩ else none := by
  unfold Pairing.unpaired
  cases hon : config.pairing.enabled
  · rfl
  · rw [h hon]; cases isPairedUser s.users config.chatId <;> rfl

/-- From start-up, as long as `/pair` and `/unpair` come from the configured chat, the
short-circuit of `requestApproval` follows the table, whatever `/status` messages arrive. -/
theorem owner_commands_requestApproval (config : TelegramConfig) (users : Js.Map PairedUser)
    {commands : List Command} (hc : ∀ cmd ∈ commands, cmd.writes = true → cmd.chatId = config.chatId)
    (text : String) :
    (requestApproval ((runCommands config (Pairing.init config users) commands).unpaired config)
        text).resolved =
      if config.pairing.enabled &&
          !isPairedUser (runCommands config (Pairing.init config users) commands).users config.chatId
      then some ⟨false, 0, "unpaired"⟩ else none :=
  requestApproval_unpaired (runCommands_consistent (init_consistent config users) hc) text

/-- The configured chat pairs itself after a `/status` from another chat: the next request is
prompted. -/
theorem owner_pairing_prompts :
    (∀ cmd ∈ [Command.status "666", .pair "100" "s3cret" (some "Owner") none 5],
      cmd.writes = true → cmd.chatId = "100") ∧
    (requestApproval ((runCommands ⟨"100", ⟨true, "s3cret"⟩⟩ (Pairing.init ⟨"100", ⟨true, "s3cret"⟩⟩ .empty)
        [.status "666", .pair "100" "s3cret" (some "Owner") none 5]).unpaired
        ⟨"100", ⟨true, "s3cret"⟩⟩) "P").resolved =
      if (⟨"100", ⟨true, "s3cret"⟩⟩ : TelegramConfig).pairing.enabled &&
          !isPairedUser (runCommands ⟨"100", ⟨true, "s3cret"⟩⟩
            (Pairing.init ⟨"100", ⟨true, "s3cret"⟩⟩ .empty)
            [.status "666", .pair "100" "s3cret" (some "Owner") none 5]).users "100"
      then some ⟨false, 0, "unpaired"⟩ else none :=
  ⟨by decide, owner_commands_requestApproval ⟨"100", ⟨true, "s3cret"⟩⟩ .empty (by decide) "P"⟩

/-- The flag is global but the handlers write it for whichever chat sent the command. With chat
"100" configured and paired, an `/unpair` from chat "666" leaves "100" paired but makes
`requestApproval` answer `unpaired`; with "100" not paired, a `/pair` with the right secret from
"666" makes `requestApproval` send its prompt to the unpaired chat "100". -/
theorem stranger_command_desyncs_pairing :
    let config : TelegramConfig := ⟨"100", ⟨true, "s3cret"⟩⟩
    let unpaired := runCommands config (Pairing.init config (Js.Map.empty.set "100" ⟨"Owner", 0⟩))
      [.unpair "666"]
    let paired := runCommands config (Pairing.init config Js.Map.empty)
      [.pair "666" "s3cret" (some "Mallory") none 5]
    (isPairedUser unpaired.users "100" = true ∧ unpaired.paired = false ∧
      (requestApproval (unpaired.unpaired config) "P").resolved = some ⟨false, 0, "unpaired"⟩) ∧
    (isPairedUser paired.users "100" = false ∧ paired.paired = true ∧
      (requestApproval (paired.unpaired config) "P").resolved = none) :=
  ⟨⟨rfl, rfl, rfl⟩, rfl, rfl, rfl⟩

end ClawGuard.Telegram
