import FlipperMcp.Bridge.WifiManager
import Mathlib.Algebra.Ring.Nat
import Mathlib.Data.List.Basic
import Mathlib.Data.List.Induction

/-! # Connecting to the network

Whatever the driver reports and the portal is sent, and however the three tasks interleave, the
bridge retries five times at most for each address and each form, knows whether it is
connected, and gives up at the sixth loss in a row (`connection_tracked`). A portal that is not
up behind the start never comes up, so a bridge that has given up then stays without a network
(`stranded`).
-/

namespace FlipperMcp.WifiManager

section Budget

/-- How many calls of `esp_wifi_connect` an action may lead to: a start to one, an address to the
retries, and a form to one and the retries. -/
def Action.grants : Action → ℕ
  | event .staStart => 1
  | event (.staGotIp _) => maxRetryCount
  | submit => maxRetryCount + 1
  | event .staDisconnected | event .apStaConnected | event .apStaDisconnected | handle | serve _
  | boot _ => 0

/-- What of it the event task still has ahead. -/
def Handling.ahead : Handling → ℕ
  | connect => 1
  | address _ | reset => maxRetryCount
  | idle | lose | compare | retry | load | store _ | fail | gain | announce => 0

/-- What of it the portal still has ahead. -/
def Serving.ahead : Serving → ℕ
  | configure | reset => maxRetryCount + 1
  | clear | connect => 1
  | _ => 0

/-- The retries since the last reset, with the one that is not counted yet. -/
def State.spent (s : State) : ℕ :=
  match s.handling with
  | .load => s.retryNum + 1
  | .store retryNum => retryNum + 1
  | _ => s.retryNum

/-- The retries stay within their count, and all calls within what was granted. -/
structure Budgeted (history : List Action) (s : State) : Prop where
  counted : s.retryNum ≤ maxRetryCount
  retry : s.handling = .retry → s.retryNum < maxRetryCount
  spent : s.spent ≤ maxRetryCount
  calls : s.connects + s.handling.ahead + s.serving.ahead ≤ (history.map Action.grants).sum + s.spent

variable {history : List Action} {s s' : State}

theorem grants_append (history : List Action) (action : Action) :
    ((history ++ [action]).map Action.grants).sum =
      (history.map Action.grants).sum + action.grants := by
  rw [List.map_append, List.sum_append, List.map_singleton, List.sum_singleton]

theorem Budgeted.init : Budgeted [] {} where
  counted := Nat.zero_le _
  retry stands := nomatch stands
  spent := Nat.zero_le _
  calls := Nat.le_refl 0

/-- A step that spends what it calls. -/
theorem Budgeted.next (h : Budgeted history s) (action : Action)
    (counted : s'.retryNum ≤ maxRetryCount)
    (retry : s'.handling = .retry → s'.retryNum < maxRetryCount) (spent : s'.spent ≤ maxRetryCount)
    (calls : s'.connects + s'.handling.ahead + s'.serving.ahead + s.spent ≤
      s.connects + s.handling.ahead + s.serving.ahead + action.grants + s'.spent) :
    Budgeted (history ++ [action]) s' := by
  refine ⟨counted, retry, spent, ?_⟩
  have granted := h.calls
  rw [grants_append]
  omega

theorem Budgeted.event (h : Budgeted history s) (idle : s.handling = .idle) (event : WifiEvent) :
    Budgeted (history ++ [.event event]) { s with handling := event.begins } := by
  apply h.next
  · exact h.counted
  · intro stands
    cases event <;> exact nomatch stands
  · cases event <;> exact h.counted
  · simp only [State.spent, idle]
    cases event <;> simp only [WifiEvent.begins, Handling.ahead, Action.grants] <;> omega

/-- What is set tells the portal something, which leaves nothing ahead. -/
theorem ahead_setBits (connected failed : Bool) (s : State) :
    (setBits connected failed s).serving.ahead = s.serving.ahead := by
  unfold setBits
  by_cases waits : s.serving = .waiting
  · simp only [waits, ↓reduceIte, Serving.ahead]
  · simp only [waits, ↓reduceIte]

theorem Budgeted.handle (h : Budgeted history s) (taken : Handled s s') :
    Budgeted (history ++ [.handle]) s' := by
  have counted := h.counted
  have spent := h.spent
  unfold State.spent at spent
  cases taken with
  | connect stands | lose stands | gain stands | address ip stands =>
      refine h.next _ counted nofun counted ?_
      simp only [State.spent, stands, Handling.ahead]
      omega
  | compare stands left =>
      exact h.next _ counted (fun _ => left) counted (by simp [State.spent, stands, Handling.ahead])
  | exhausted stands none_ =>
      exact h.next _ counted nofun counted (by simp [State.spent, stands, Handling.ahead])
  | retry stands =>
      -- the call is spent at once, and counted by the next two steps
      refine h.next _ counted nofun (h.retry stands) ?_
      simp only [State.spent, stands, Handling.ahead]
      omega
  | load stands =>
      rw [stands] at spent
      exact h.next _ counted nofun spent (by simp [State.spent, stands, Handling.ahead])
  | store retryNum stands =>
      rw [stands] at spent
      exact h.next _ spent nofun spent (by simp [State.spent, stands, Handling.ahead])
  | reset stands =>
      refine h.next _ (Nat.zero_le _) nofun (Nat.zero_le _) ?_
      simp only [State.spent, stands, Handling.ahead]
      omega
  | fail stands | announce stands =>
      refine h.next _ counted nofun counted ?_
      simp only [State.spent, stands, Handling.ahead, setBits_connects, setBits_retryNum,
        ahead_setBits]
      omega

theorem Budgeted.serve (h : Budgeted history s) {elapsed : Bool}
    (taken : serve elapsed s = some s') : Budgeted (history ++ [.serve elapsed]) s' := by
  have counted := h.counted
  have spent := h.spent
  unfold WifiManager.serve at taken
  cases stands : s.serving with
  | idle =>
      rw [stands] at taken
      exact nomatch taken
  | waiting =>
      rw [stands] at taken
      cases elapsed with
      | false => exact nomatch taken
      | true =>
          obtain rfl := Option.some.inj taken
          exact h.next _ counted h.retry spent (by simp [State.spent, stands, Serving.ahead])
  | reset =>
      -- the event task may have loaded the count already
      rw [stands] at taken
      obtain rfl := Option.some.inj taken
      unfold State.spent at spent
      refine h.next _ (Nat.zero_le _) (fun _ => Nat.succ_pos _) ?_ ?_
      · unfold State.spent
        cases on : s.handling <;> simp only [on] at spent ⊢ <;> omega
      · unfold State.spent
        cases on : s.handling <;> simp only [on, stands, Serving.ahead] at spent ⊢ <;> omega
  | await =>
      rw [stands] at taken
      obtain rfl := Option.some.inj taken
      refine h.next _ counted h.retry spent ?_
      by_cases told : (s.connectedBit || s.failBit) = true
      · simp [State.spent, stands, told, Serving.ahead]
      · simp [State.spent, stands, told, Serving.ahead]
  | respond connected =>
      rw [stands] at taken
      obtain rfl := Option.some.inj taken
      refine h.next _ counted h.retry spent ?_
      cases connected <;> simp [State.spent, stands, Serving.ahead]
  | configure | clear | connect | stop =>
      rw [stands] at taken
      obtain rfl := Option.some.inj taken
      refine h.next _ counted h.retry spent ?_
      simp only [State.spent, stands, Serving.ahead, espWifiConnect]
      omega

theorem Budgeted.step (h : Budgeted history s) {action : Action} (taken : Stepped s action s') :
    Budgeted (history ++ [action]) s' := by
  cases taken with
  | event event idle => exact h.event idle event
  | handle handled => exact h.handle handled
  | submit _ idle =>
      refine h.next _ h.counted h.retry h.spent ?_
      simp only [State.spent, idle, Serving.ahead, Action.grants]
      omega
  | serve elapsed taken => exact h.serve taken
  | boot ok taken =>
      obtain ⟨booting, httpd, ipStr, rfl⟩ := boot_cases taken
      refine h.next _ h.counted h.retry h.spent ?_
      simp only [State.spent]
      omega

theorem budgeted (reaches : Reaches {} history s) : Budgeted history s := by
  induction reaches with
  | refl => exact .init
  | step _ action taken ih => exact ih.step (step_cases taken)

end Budget

section Connection

/-- The address assigned, unless the connection was lost since. -/
def Action.assigns (ip : Option UInt32) : Action → Option UInt32
  | event (.staGotIp ip) => some ip
  | event .staDisconnected => none
  | _ => ip

def assigned (history : List Action) : Option UInt32 := history.foldl Action.assigns none

/-- How often the connection was lost since an address was assigned. -/
def Action.loses (count : ℕ) : Action → ℕ
  | event (.staGotIp _) => 0
  | event .staDisconnected => count + 1
  | event .staStart | event .apStaConnected | event .apStaDisconnected | handle | submit | serve _
  | boot _ => count

def losses (history : List Action) : ℕ := history.foldl Action.loses 0

/-- What the variables tell of the address, while an event is handled and behind it. -/
def Tells (ip : Option UInt32) (s : State) : Prop :=
  match s.handling with
  | .idle | .connect => wifiManagerGetIp s = ip
  | .lose => ip = none
  | .compare | .retry | .load | .store _ | .fail => ip = none ∧ s.isConnected = false
  | .address addr => ip = some addr
  | .reset | .gain => ip = some s.ipAddr
  | .announce => ip = some s.ipAddr ∧ s.isConnected = true

/-- What the count tells of the losses, if there was no form. -/
def Counts (lost : ℕ) (s : State) : Prop :=
  match s.handling with
  | .idle | .connect | .gain | .announce => s.retryNum = min maxRetryCount lost
  | .lose | .compare => s.retryNum + 1 = min (maxRetryCount + 1) lost
  | .retry | .load => s.retryNum + 1 = lost ∧ lost ≤ maxRetryCount
  | .store retryNum => retryNum + 1 = lost ∧ lost ≤ maxRetryCount
  | .fail => s.retryNum = maxRetryCount ∧ maxRetryCount < lost
  | .address _ | .reset => lost = 0

variable {history : List Action} {s s' : State}

theorem assigned_append (history : List Action) (action : Action) :
    assigned (history ++ [action]) = action.assigns (assigned history) :=
  List.foldl_append

theorem losses_append (history : List Action) (action : Action) :
    losses (history ++ [action]) = action.loses (losses history) :=
  List.foldl_append

theorem Tells.handle {ip : Option UInt32} (h : Tells ip s) (taken : Handled s s') : Tells ip s' := by
  unfold Tells at h
  cases taken with
  | connect stands =>
      rw [stands] at h
      exact h
  | lose stands | address _ stands =>
      rw [stands] at h
      simp only [Tells, h, and_self]
  | compare stands | exhausted stands | retry stands | load stands | reset stands =>
      rw [stands] at h
      exact h
  | gain stands =>
      rw [stands] at h
      exact ⟨h, rfl⟩
  | store _ stands | fail stands =>
      rw [stands] at h
      obtain ⟨none_, lost⟩ := h
      simp only [Tells, wifiManagerGetIp, setBits_isConnected, lost, none_, Bool.false_eq_true,
        ↓reduceIte]
  | announce stands =>
      rw [stands] at h
      obtain ⟨some_, got⟩ := h
      simp only [Tells, wifiManagerGetIp, setBits_isConnected, setBits_ipAddr, got, some_, ↓reduceIte]

/-- The portal's handler never touches what is told of the network. -/
structure Aside (s s' : State) : Prop where
  handling : s'.handling = s.handling
  isConnected : s'.isConnected = s.isConnected
  ipAddr : s'.ipAddr = s.ipAddr

theorem aside_serve {elapsed : Bool} (taken : serve elapsed s = some s') : Aside s s' := by
  unfold serve at taken
  cases stands : s.serving with
  | idle =>
      rw [stands] at taken
      exact nomatch taken
  | waiting =>
      rw [stands] at taken
      cases elapsed with
      | false => exact nomatch taken
      | true =>
          obtain rfl := Option.some.inj taken
          exact ⟨rfl, rfl, rfl⟩
  | _ =>
      rw [stands] at taken
      obtain rfl := Option.some.inj taken
      exact ⟨rfl, rfl, rfl⟩

theorem Tells.aside {ip : Option UInt32} (h : Tells ip s) (same : Aside s s') : Tells ip s' := by
  unfold Tells wifiManagerGetIp at h ⊢
  rw [same.handling, same.isConnected, same.ipAddr]
  exact h

theorem Tells.step (h : Tells (assigned history) s) {action : Action} (taken : Stepped s action s') :
    Tells (assigned (history ++ [action])) s' := by
  rw [assigned_append]
  cases taken with
  | event event idle =>
      unfold Tells at h
      rw [idle] at h
      cases event with
      | staGotIp _ | staDisconnected => rfl
      | _ => exact h
  | handle handled => exact h.handle handled
  | submit _ _ => exact h.aside ⟨rfl, rfl, rfl⟩
  | serve elapsed taken => exact h.aside (aside_serve taken)
  | boot ok taken =>
      obtain ⟨booting, httpd, ipStr, rfl⟩ := boot_cases taken
      exact h.aside ⟨rfl, rfl, rfl⟩

theorem tells (reaches : Reaches {} history s) : Tells (assigned history) s := by
  induction reaches with
  | refl => rfl
  | step _ action taken ih => exact ih.step (step_cases taken)

theorem known (reaches : Reaches {} history s) (idle : s.handling = .idle) :
    wifiManagerGetIp s = assigned history := by
  have tells := tells reaches
  unfold Tells at tells
  rw [idle] at tells
  exact tells

/-- What was lost is not assigned. -/
theorem assigned_of_losses (lost : 0 < losses history) : assigned history = none := by
  induction history using List.reverseRecOn with
  | nil => rfl
  | append_singleton history action ih =>
      rw [losses_append] at lost
      rw [assigned_append]
      cases action with
      | event event =>
          cases event with
          | staGotIp _ => exact absurd lost (Nat.lt_irrefl 0)
          | staDisconnected => rfl
          | _ => exact ih lost
      | _ => exact ih lost

end Connection

section Losses

variable {history : List Action} {s s' : State}

/-- The count was exceeded at some time. -/
def Exceeded (history : List Action) : Prop :=
  ∃ earlier, earlier <+: history ∧ maxRetryCount < losses earlier

theorem exceeded_append (history : List Action) (action : Action) :
    Exceeded (history ++ [action]) ↔
      Exceeded history ∨ maxRetryCount < losses (history ++ [action]) := by
  constructor
  · rintro ⟨earlier, begins, more⟩
    rcases List.prefix_concat_iff.mp begins with rfl | begins
    · exact .inr more
    · exact .inl ⟨earlier, begins, more⟩
  · rintro (⟨earlier, begins, more⟩ | more)
    · exact ⟨earlier, begins.trans (List.prefix_append _ _), more⟩
    · exact ⟨_, List.prefix_rfl, more⟩

/-- What is no event of the driver loses nothing. -/
theorem exceeded_quiet {action : Action} (quiet : action.loses (losses history) = losses history) :
    Exceeded (history ++ [action]) ↔ Exceeded history := by
  rw [exceeded_append, losses_append, quiet]
  exact or_iff_left_of_imp fun more => ⟨history, List.prefix_rfl, more⟩

/-- Without a form, the count and the fail bit follow the losses. -/
structure Follows (history : List Action) (s : State) : Prop where
  idle : s.serving = .idle
  counts : Counts (losses history) s
  failed : s.failBit = true → Exceeded history
  exceeded : Exceeded history → s.failBit = true ∨ maxRetryCount < losses history ∧
    (s.handling = .lose ∨ s.handling = .compare ∨ s.handling = .fail)

theorem Counts.handle {lost : ℕ} (h : Counts lost s) (taken : Handled s s') : Counts lost s' := by
  unfold Counts at h
  cases taken with
  | compare stands left | exhausted stands none_ =>
      rw [stands] at h
      simp only [Counts]
      omega
  | store _ stands =>
      rw [stands] at h
      simp only [Counts]
      omega
  | fail stands =>
      rw [stands] at h
      simp only [Counts, setBits_retryNum]
      omega
  | reset stands =>
      rw [stands] at h
      simp only [Counts]
      omega
  | connect stands | lose stands | retry stands | load stands | address _ stands | gain stands
  | announce stands =>
      rw [stands] at h
      exact h

theorem Follows.init : Follows [] {} where
  idle := rfl
  counts := rfl
  failed set := nomatch set
  exceeded := by
    rintro ⟨earlier, begins, more⟩
    rw [List.prefix_nil.mp begins] at more
    exact absurd more (Nat.not_lt_zero _)

/-- Where no loss is being handled, the bit is set already. -/
theorem Follows.set (h : Follows history s) (other : s.handling ≠ .lose ∧ s.handling ≠ .compare ∧
    s.handling ≠ .fail) (exceeded : Exceeded history) : s.failBit = true := by
  rcases h.exceeded exceeded with set | ⟨-, stands | stands | stands⟩
  · exact set
  · exact absurd stands other.1
  · exact absurd stands other.2.1
  · exact absurd stands other.2.2

theorem Follows.event (h : Follows history s) (stands : s.handling = .idle) (event : WifiEvent) :
    Follows (history ++ [.event event]) { s with handling := event.begins } := by
  have counts := h.counts
  have set := h.set (by rw [stands]; exact ⟨nofun, nofun, nofun⟩)
  unfold Counts at counts
  rw [stands] at counts
  refine ⟨h.idle, ?_, fun failed => (exceeded_append _ _).mpr (.inl (h.failed failed)), ?_⟩
  · rw [losses_append]
    cases event with
    | staDisconnected =>
        simp only [Counts, WifiEvent.begins, Action.loses]
        omega
    | staGotIp _ => rfl
    | _ => exact counts
  · intro exceeded
    cases event with
    | staDisconnected =>
        rcases (exceeded_append _ _).mp exceeded with earlier | more
        · exact .inl (set earlier)
        · exact .inr ⟨more, .inl rfl⟩
    | staGotIp _ =>
        rcases (exceeded_append _ _).mp exceeded with earlier | more
        · exact .inl (set earlier)
        · rw [losses_append] at more
          exact absurd more (Nat.not_lt_zero _)
    | _ => exact .inl (set ((exceeded_quiet rfl).mp exceeded))

theorem Follows.handle (h : Follows history s) (taken : Handled s s') :
    Follows (history ++ [.handle]) s' := by
  have counts := h.counts
  have same : losses (history ++ [.handle]) = losses history := losses_append history .handle
  have exceeds : Exceeded (history ++ [.handle]) ↔ Exceeded history := exceeded_quiet rfl
  have told (connected failed : Bool) : (setBits connected failed s).serving = .idle := by
    simp only [setBits, h.idle, reduceCtorEq, ↓reduceIte]
  have after := counts.handle taken
  rw [← same] at after
  cases taken with
  | lose stands | exhausted stands none_ =>
      refine ⟨h.idle, after, exceeds.mpr ∘ h.failed, fun exceeded => ?_⟩
      rw [same]
      exact (h.exceeded (exceeds.mp exceeded)).imp id fun more => ⟨more.1, by simp⟩
  | compare stands left =>
      refine ⟨h.idle, after, exceeds.mpr ∘ h.failed, fun exceeded => ?_⟩
      unfold Counts at counts
      rw [stands] at counts
      exact (h.exceeded (exceeds.mp exceeded)).imp id fun more => by omega
  | fail stands =>
      unfold Counts at counts
      rw [stands] at counts
      exact ⟨told false true, after,
        fun _ => exceeds.mpr ⟨history, List.prefix_rfl, counts.2⟩, fun _ => .inl (Bool.or_true _)⟩
  | announce stands =>
      have set := h.set (by rw [stands]; exact ⟨nofun, nofun, nofun⟩)
      refine ⟨told true false, after, fun failed => ?_, fun exceeded => ?_⟩
      · exact exceeds.mpr (h.failed ((Bool.or_false _).symm.trans failed))
      · exact .inl ((Bool.or_false _).trans (set (exceeds.mp exceeded)))
  | connect stands | retry stands | load stands | store _ stands | address _ stands | reset stands
  | gain stands =>
      have set := h.set (by rw [stands]; exact ⟨nofun, nofun, nofun⟩)
      exact ⟨h.idle, after, exceeds.mpr ∘ h.failed, fun exceeded => .inl (set (exceeds.mp exceeded))⟩

theorem Follows.step (h : Follows history s) {action : Action} (taken : Stepped s action s')
    (formless : action ≠ .submit) : Follows (history ++ [action]) s' := by
  cases taken with
  | event event stands => exact h.event stands event
  | handle handled => exact h.handle handled
  | submit _ _ => exact absurd rfl formless
  | serve elapsed taken =>
      unfold serve at taken
      rw [h.idle] at taken
      exact nomatch taken
  | boot ok taken =>
      obtain ⟨booting, httpd, ipStr, rfl⟩ := boot_cases taken
      have same : losses (history ++ [.boot ok]) = losses history := losses_append history _
      refine ⟨h.idle, ?_, (exceeded_quiet rfl).mpr ∘ h.failed, ?_⟩
      · rw [same]
        exact h.counts
      · rw [same, exceeded_quiet rfl]
        exact h.exceeded

theorem follows (reaches : Reaches {} history s) (formless : .submit ∉ history) :
    Follows history s := by
  induction reaches with
  | refl => exact .init
  | step _ action taken ih =>
      obtain ⟨before, here⟩ := not_or.mp (mt List.mem_append.mpr formless)
      exact (ih before).step (step_cases taken) fun same => here (List.mem_singleton.mpr same.symm)

theorem Follows.retryNum (h : Follows history s) (idle : s.handling = .idle) :
    s.retryNum = min maxRetryCount (losses history) := by
  have counts := h.counts
  unfold Counts at counts
  rw [idle] at counts
  exact counts

end Losses

section Runs

variable {history rest : List Action} {s s' : State}

/-- **The connection is tracked.** In every run, `esp_wifi_connect` is called once for each start of
the station and each form, and five more times at most at the beginning, for each address and
for each form. Between two events the address is the one assigned, unless the connection was
lost since. Without a form, five losses behind the last address are retried, and the fail bit
is set exactly when there were six. -/
theorem connection_tracked (reaches : Reaches {} history s) :
    s.connects ≤ (history.map Action.grants).sum + maxRetryCount ∧
      (s.handling = .idle → wifiManagerGetIp s = assigned history) ∧
      (.submit ∉ history → s.handling = .idle →
        s.retryNum = min maxRetryCount (losses history) ∧
          (s.failBit = true ↔ Exceeded history)) := by
  refine ⟨?_, known reaches, fun formless idle => ?_⟩
  · have calls := (budgeted reaches).calls
    have spent := (budgeted reaches).spent
    omega
  · have follows := follows reaches formless
    have set := follows.set (by rw [idle]; exact ⟨nofun, nofun, nofun⟩)
    exact ⟨follows.retryNum idle, follows.failed, set⟩

/-- A boot with stored credentials, which lead to no address. -/
def refused : List Action :=
  [.boot true, .boot true, .boot true, .event .staStart, .handle] ++
    (List.replicate 5 [.event .staDisconnected, .handle, .handle, .handle, .handle, .handle]).flatten ++
    [.event .staDisconnected, .handle, .handle, .handle, .boot false, .boot true]

theorem connection_tracked_refused : ∃ s, Reaches {} refused s ∧ s.httpd = true ∧ s.connects = 6 ∧
    s.retryNum = min maxRetryCount (losses refused) ∧ (s.failBit = true ↔ Exceeded refused) := by
  obtain ⟨s, taken⟩ : ∃ s, takeAll {} refused = some s := Option.isSome_iff_exists.mp (by decide +kernel)
  have reaches := reaches_of_takeAll taken
  have ended : (takeAll {} refused).map (fun s => (s.httpd, s.connects, s.handling)) =
      some (true, 6, .idle) := by decide +kernel
  rw [taken] at ended
  obtain ⟨up, calls, idle⟩ : s.httpd = true ∧ s.connects = 6 ∧ s.handling = .idle := by
    simpa using ended
  exact ⟨s, reaches, up, calls, (connection_tracked reaches).2.2 (by decide +kernel) idle⟩

/-- The count is used up, and the portal is down behind the start. -/
structure GaveUp (s : State) : Prop where
  past : s.booting.pastPortal = true
  down : s.httpd = false
  serving : s.serving = .idle
  counted : s.retryNum = maxRetryCount
  lost : s.isConnected = false
  handling : s.handling = .idle ∨ s.handling = .lose ∨ s.handling = .compare ∨ s.handling = .fail

/-- Nothing is tried again. -/
theorem GaveUp.step (h : GaveUp s) {action : Action} (taken : Stepped s action s')
    (started : action ≠ .event .staStart) (ipless : ∀ ip, action ≠ .event (.staGotIp ip)) :
    GaveUp s' ∧ s'.connects = s.connects ∧ action ≠ .submit := by
  cases taken with
  | event event stands =>
      refine ⟨⟨h.past, h.down, h.serving, h.counted, h.lost, ?_⟩, rfl, nofun⟩
      cases event with
      | staStart => exact absurd rfl started
      | staGotIp ip => exact absurd rfl (ipless ip)
      | staDisconnected => exact .inr (.inl rfl)
      | apStaConnected | apStaDisconnected => exact .inl rfl
  | handle handled =>
      have handling := h.handling
      have told (connected failed : Bool) : (setBits connected failed s).serving = .idle := by
        simp only [setBits, h.serving, reduceCtorEq, ↓reduceIte]
      have past (connected failed : Bool) :
          (setBits connected failed s).booting.pastPortal = true := by
        have waits : s.booting ≠ .waiting := fun waits => by
          have past := h.past
          rw [waits] at past
          exact nomatch past
        simp only [setBits, waits, ↓reduceIte, h.past]
      cases handled with
      | lose stands =>
          exact ⟨⟨h.past, h.down, h.serving, h.counted, rfl, .inr (.inr (.inl rfl))⟩, rfl, nofun⟩
      | compare stands left => exact absurd h.counted (Nat.ne_of_lt left)
      | exhausted stands none_ =>
          exact ⟨⟨h.past, h.down, h.serving, h.counted, h.lost, .inr (.inr (.inr rfl))⟩, rfl, nofun⟩
      | fail stands =>
          exact ⟨⟨past false true, h.down, told false true, h.counted, h.lost, .inl rfl⟩, rfl, nofun⟩
      | connect stands | retry stands | load stands | store _ stands | address _ stands
      | reset stands | gain stands | announce stands =>
          rw [stands] at handling
          rcases handling with other | other | other | other <;> exact nomatch other
  | submit up idle =>
      rw [h.down] at up
      exact nomatch up
  | serve elapsed taken =>
      unfold serve at taken
      rw [h.serving] at taken
      exact nomatch taken
  | boot ok taken =>
      obtain ⟨booting, ipStr, rfl, past⟩ := boot_pastPortal taken h.past
      exact ⟨⟨past, h.down, h.serving, h.counted, h.lost, h.handling⟩, rfl, nofun⟩

theorem GaveUp.run (h : GaveUp s) (later : Reaches s rest s') (started : .event .staStart ∉ rest)
    (ipless : ∀ ip, .event (.staGotIp ip) ∉ rest) :
    GaveUp s' ∧ s'.connects = s.connects ∧ .submit ∉ rest := by
  induction later with
  | refl => exact ⟨h, rfl, List.not_mem_nil⟩
  | step _ action taken ih =>
      obtain ⟨gaveUp, calls, formless⟩ := ih (fun member => started (List.mem_append_left _ member))
        fun ip member => ipless ip (List.mem_append_left _ member)
      have last (earlier : List Action) : action ∈ earlier ++ [action] :=
        List.mem_append_right earlier (List.mem_singleton_self action)
      obtain ⟨gaveUp, same, other⟩ := gaveUp.step (step_cases taken)
        (fun same => started (same ▸ last _)) fun ip same => ipless ip (same ▸ last _)
      refine ⟨gaveUp, same.trans calls, fun member => ?_⟩
      rcases List.mem_append.mp member with earlier | here
      · exact formless earlier
      · exact other (List.mem_singleton.mp here).symm

/-- **Stranded.** Past the start the portal does not come up again. So once the bridge has given
up without it, `esp_wifi_connect` is never called again and no form is taken, whatever happens,
unless the driver starts the station or reports an address by itself. -/
theorem stranded (reaches : Reaches {} history s) (formless : .submit ∉ history)
    (idle : s.handling = .idle) (past : s.booting.pastPortal = true) (down : s.httpd = false)
    (given : maxRetryCount < losses history) (later : Reaches s rest s')
    (started : .event .staStart ∉ rest) (ipless : ∀ ip, .event (.staGotIp ip) ∉ rest) :
    s'.connects = s.connects ∧ s'.isConnected = false ∧ s'.httpd = false ∧ .submit ∉ rest := by
  have follows := follows reaches formless
  have none_ : wifiManagerGetIp s = none :=
    (known reaches idle).trans (assigned_of_losses (Nat.zero_lt_of_lt given))
  have lost : s.isConnected = false := by
    cases connected : s.isConnected with
    | false => rfl
    | true =>
        unfold wifiManagerGetIp at none_
        rw [connected] at none_
        exact nomatch none_
  have gaveUp : GaveUp s :=
    ⟨past, down, follows.idle, (follows.retryNum idle).trans (Nat.min_eq_left (Nat.le_of_lt given)), lost, .inl idle⟩
  obtain ⟨after, calls, formless⟩ := gaveUp.run later started ipless
  exact ⟨calls, after.lost, after.down, formless⟩

/-- A boot that connects, and an access point that then stays away. -/
def forsaken : List Action :=
  [.boot true, .boot true, .boot true, .event .staStart, .handle, .event (.staGotIp 0x0A00000A),
    .handle, .handle, .handle, .handle, .boot true] ++
    (List.replicate 5 [.event .staDisconnected, .handle, .handle, .handle, .handle, .handle]).flatten ++
    [.event .staDisconnected, .handle, .handle, .handle]

/-- It is lost once more, and the main task looks for the connection. -/
theorem stranded_forsaken : ∃ s s', Reaches {} forsaken s ∧ s.connects = 6 ∧
    Reaches s [.boot true, .event .staDisconnected, .handle, .handle, .handle] s' ∧ s'.connects = 6 := by
  obtain ⟨s, taken⟩ : ∃ s, takeAll {} forsaken = some s :=
    Option.isSome_iff_exists.mp (by decide +kernel)
  have reaches := reaches_of_takeAll taken
  have ended : (takeAll {} forsaken).map (fun s => (s.connects, s.handling, s.booting, s.httpd)) =
      some (6, .idle, .poll, false) := by decide +kernel
  rw [taken] at ended
  obtain ⟨calls, idle, polls, down⟩ :
      s.connects = 6 ∧ s.handling = .idle ∧ s.booting = .poll ∧ s.httpd = false := by
    simpa using ended
  obtain ⟨s', again⟩ :
      ∃ s', takeAll s [.boot true, .event .staDisconnected, .handle, .handle, .handle] = some s' := by
    have goesOn : ((takeAll {} forsaken).bind fun s =>
        takeAll s [.boot true, .event .staDisconnected, .handle, .handle, .handle]).isSome = true := by
      decide +kernel
    rw [taken] at goesOn
    exact Option.isSome_iff_exists.mp goesOn
  have later := reaches_of_takeAll again
  obtain ⟨same, -⟩ := stranded reaches (by decide +kernel) idle (by rw [polls]; rfl) down
    (by decide +kernel) later (by decide +kernel) (fun ip => by simp)
  exact ⟨s, s', reaches, calls, later, same.trans calls⟩

end Runs

end FlipperMcp.WifiManager
