import Mathlib.Data.Nat.Notation

/-! # The WiFi manager of the bridge

`wifi_manager.c`, and what `app_main` does around it. Three tasks share its static variables:
the event task runs `wifi_event_handler`, the task of the captive portal runs
`http_connect_handler`, and the main task runs `wifi_manager_init` and goes on once there is a
connection. A step is one access to what they share, or one call of the driver, so the tasks
interleave everywhere.
-/

namespace FlipperMcp.WifiManager

def maxRetryCount : ℕ := 5

/-- The events that `wifi_event_handler` tells apart. -/
inductive WifiEvent
  | staStart
  | staDisconnected
  | apStaConnected
  | apStaDisconnected
  | staGotIp (ip : UInt32)
  deriving DecidableEq

/-- What `wifi_event_handler` does next. -/
inductive Handling
  /-- It waits for an event. -/
  | idle
  /-- The `esp_wifi_connect` of a started station. -/
  | connect
  /-- `s_is_connected = false`. -/
  | lose
  /-- `s_retry_num < MAX_RETRY_COUNT`. -/
  | compare
  /-- The `esp_wifi_connect` of a retry. -/
  | retry
  /-- The load of `s_retry_num++`. -/
  | load
  /-- Its store. -/
  | store (retryNum : ℕ)
  /-- `xEventGroupSetBits(…, WIFI_FAIL_BIT)`. -/
  | fail
  /-- `s_ip_addr = event->ip_info.ip`. -/
  | address (ip : UInt32)
  /-- `s_retry_num = 0`. -/
  | reset
  /-- `s_is_connected = true`. -/
  | gain
  /-- `xEventGroupSetBits(…, WIFI_CONNECTED_BIT)`. -/
  | announce
  deriving DecidableEq

/-- What `http_connect_handler` does next. -/
inductive Serving
  /-- It waits for a form. -/
  | idle
  /-- The calls that save and configure the credentials. -/
  | configure
  /-- `s_retry_num = 0`. -/
  | reset
  /-- `xEventGroupClearBits`. -/
  | clear
  /-- `esp_wifi_connect`. -/
  | connect
  /-- `xEventGroupWaitBits`. -/
  | await
  /-- It waits for one of the bits. -/
  | waiting
  /-- The page with the result. -/
  | respond (connected : Bool)
  /-- `stop_captive_portal`. -/
  | stop
  deriving DecidableEq

/-- What the main task does next. -/
inductive Booting
  /-- The initialisations of `wifi_manager_init`. -/
  | initialise
  /-- `load_credentials`. -/
  | load
  /-- `xEventGroupWaitBits`. -/
  | await
  /-- It waits for one of the bits. -/
  | waiting
  /-- What it does with the result. -/
  | decide (connected : Bool)
  /-- `start_captive_portal`. -/
  | portal
  /-- `wifi_manager_is_connected` in the loop of `app_main`. -/
  | poll
  /-- `wifi_manager_get_ip` into `ip_str`. -/
  | getIp
  | expansionInit
  | tcpServerInit
  | httpApiInit
  /-- The bridge is ready. -/
  | ready
  /-- An initialisation failed. -/
  | ended
  deriving DecidableEq

/-- The main task is past `start_captive_portal`. -/
def Booting.pastPortal : Booting → Bool
  | initialise | load | await | waiting | decide _ | portal => false
  | _ => true

/-- The static variables, and where the tasks stand. -/
structure State where
  retryNum : ℕ := 0
  isConnected : Bool := false
  ipAddr : UInt32 := 0
  connectedBit : Bool := false
  failBit : Bool := false
  /-- `s_httpd` is not `NULL`. -/
  httpd : Bool := false
  handling : Handling := .idle
  serving : Serving := .idle
  booting : Booting := .initialise
  /-- What `ip_str` of `app_main` holds, once it is written. -/
  ipStr : Option UInt32 := none
  /-- The calls of `esp_wifi_connect` so far. -/
  connects : ℕ := 0
  deriving DecidableEq

/-- `xEventGroupSetBits`; a task that waits is told the bits. -/
def setBits (connected failed : Bool) (s : State) : State :=
  let connectedBit := s.connectedBit || connected
  { s with
    connectedBit
    failBit := s.failBit || failed
    serving := if s.serving = .waiting then .respond connectedBit else s.serving
    booting := if s.booting = .waiting then .decide connectedBit else s.booting }

section Bits

variable (connected failed : Bool) (s : State)

@[simp] theorem setBits_retryNum : (setBits connected failed s).retryNum = s.retryNum := rfl

@[simp] theorem setBits_isConnected : (setBits connected failed s).isConnected = s.isConnected := rfl

@[simp] theorem setBits_ipAddr : (setBits connected failed s).ipAddr = s.ipAddr := rfl

@[simp] theorem setBits_connects : (setBits connected failed s).connects = s.connects := rfl

@[simp] theorem setBits_httpd : (setBits connected failed s).httpd = s.httpd := rfl

end Bits

/-- `esp_wifi_connect`. -/
def espWifiConnect (s : State) : State := { s with connects := s.connects + 1 }

/-- `wifi_manager_get_ip` for a buffer that is large enough. -/
def wifiManagerGetIp (s : State) : Option UInt32 := if s.isConnected then some s.ipAddr else none

/-- What an event begins. -/
def WifiEvent.begins : WifiEvent → Handling
  | staStart => .connect
  | staDisconnected => .lose
  | apStaConnected | apStaDisconnected => .idle
  | staGotIp ip => .address ip

/-- A step of `wifi_event_handler`. -/
def handle (s : State) : Option State :=
  match s.handling with
  | .idle => none
  | .connect => some { espWifiConnect s with handling := .idle }
  | .lose => some { s with isConnected := false, handling := .compare }
  | .compare => some { s with handling := if s.retryNum < maxRetryCount then .retry else .fail }
  | .retry => some { espWifiConnect s with handling := .load }
  | .load => some { s with handling := .store s.retryNum }
  | .store retryNum => some { s with retryNum := retryNum + 1, handling := .idle }
  | .fail => some { setBits false true s with handling := .idle }
  | .address ip => some { s with ipAddr := ip, handling := .reset }
  | .reset => some { s with retryNum := 0, handling := .gain }
  | .gain => some { s with isConnected := true, handling := .announce }
  | .announce => some { setBits true false s with handling := .idle }

/-- A step of `http_connect_handler`, behind the form. `elapsed` says whether 15 seconds have. -/
def serve (elapsed : Bool) (s : State) : Option State :=
  match s.serving with
  | .idle => none
  | .configure => some { s with serving := .reset }
  | .reset => some { s with retryNum := 0, serving := .clear }
  | .clear => some { s with connectedBit := false, failBit := false, serving := .connect }
  | .connect => some { espWifiConnect s with serving := .await }
  | .await => some { s with
      serving := if s.connectedBit || s.failBit then .respond s.connectedBit else .waiting }
  | .waiting => if elapsed then some { s with serving := .respond s.connectedBit } else none
  | .respond connected => some { s with serving := if connected then .stop else .idle }
  | .stop => some { s with httpd := false, serving := .idle }

/-- A step of the main task. `ok` says whether a call succeeded, or 10 seconds have elapsed. -/
def boot (ok : Bool) (s : State) : Option State :=
  match s.booting with
  | .initialise => some { s with booting := if ok then .load else .ended }
  | .load => some { s with booting := if ok then .await else .portal }
  | .await => some { s with
      booting := if s.connectedBit || s.failBit then .decide s.connectedBit else .waiting }
  | .waiting => if ok then some { s with booting := .decide s.connectedBit } else none
  | .decide connected => some { s with booting := if connected then .poll else .portal }
  | .portal => some { s with httpd := s.httpd || ok, booting := .poll }
  | .poll => some { s with booting := if s.isConnected then .getIp else .poll }
  | .getIp => some { s with ipStr := wifiManagerGetIp s, booting := .expansionInit }
  | .expansionInit => some { s with booting := if ok then .tcpServerInit else .ended }
  | .tcpServerInit => some { s with booting := if ok then .httpApiInit else .ended }
  | .httpApiInit => some { s with booting := if ok then .ready else .ended }
  | .ready | .ended => none

/-- What happens next, and in which task. -/
inductive Action
  | event (event : WifiEvent)
  | handle
  /-- A form with an SSID is posted. -/
  | submit
  | serve (elapsed : Bool)
  | boot (ok : Bool)
  deriving DecidableEq

/-- One step of one of the tasks, if it can take one. -/
def step (s : State) : Action → Option State
  | .event event => if s.handling = .idle then some { s with handling := event.begins } else none
  | .handle => handle s
  | .submit =>
      if s.httpd = true ∧ s.serving = .idle then some { s with serving := .configure } else none
  | .serve elapsed => serve elapsed s
  | .boot ok => boot ok s

/-- What a step of `wifi_event_handler` does. -/
inductive Handled (s : State) : State → Prop
  | connect (stands : s.handling = .connect) :
      Handled s { s with handling := .idle, connects := s.connects + 1 }
  | lose (stands : s.handling = .lose) :
      Handled s { s with handling := .compare, isConnected := false }
  | compare (stands : s.handling = .compare) (left : s.retryNum < maxRetryCount) :
      Handled s { s with handling := .retry }
  | exhausted (stands : s.handling = .compare) (none_ : maxRetryCount ≤ s.retryNum) :
      Handled s { s with handling := .fail }
  | retry (stands : s.handling = .retry) :
      Handled s { s with handling := .load, connects := s.connects + 1 }
  | load (stands : s.handling = .load) : Handled s { s with handling := .store s.retryNum }
  | store (retryNum : ℕ) (stands : s.handling = .store retryNum) :
      Handled s { s with handling := .idle, retryNum := retryNum + 1 }
  | fail (stands : s.handling = .fail) : Handled s { setBits false true s with handling := .idle }
  | address (ip : UInt32) (stands : s.handling = .address ip) :
      Handled s { s with handling := .reset, ipAddr := ip }
  | reset (stands : s.handling = .reset) : Handled s { s with handling := .gain, retryNum := 0 }
  | gain (stands : s.handling = .gain) :
      Handled s { s with handling := .announce, isConnected := true }
  | announce (stands : s.handling = .announce) :
      Handled s { setBits true false s with handling := .idle }

theorem handle_cases {s s' : State} (taken : handle s = some s') : Handled s s' := by
  unfold handle at taken
  cases stands : s.handling with
  | idle =>
      rw [stands] at taken
      exact nomatch taken
  | compare =>
      rw [stands] at taken
      obtain rfl := Option.some.inj taken
      by_cases left : s.retryNum < maxRetryCount
      · simp only [left, ↓reduceIte]
        exact .compare stands left
      · simp only [left, ↓reduceIte]
        exact .exhausted stands (Nat.le_of_not_lt left)
  | _ =>
      rw [stands] at taken
      obtain rfl := Option.some.inj taken
      constructor
      exact stands

/-- The main task touches nothing but its own and the portal. -/
theorem boot_cases {ok : Bool} {s s' : State} (taken : boot ok s = some s') :
    ∃ booting httpd ipStr, s' = { s with booting, httpd, ipStr } := by
  unfold boot at taken
  cases stands : s.booting with
  | ready | ended =>
      rw [stands] at taken
      exact nomatch taken
  | waiting =>
      rw [stands] at taken
      cases ok with
      | false => exact nomatch taken
      | true => exact ⟨_, _, _, (Option.some.inj taken).symm⟩
  | _ =>
      rw [stands] at taken
      exact ⟨_, _, _, (Option.some.inj taken).symm⟩

/-- Past it, the portal stays as it is. -/
theorem boot_pastPortal {ok : Bool} {s s' : State} (taken : boot ok s = some s')
    (past : s.booting.pastPortal = true) :
    ∃ booting ipStr, s' = { s with booting, ipStr } ∧ booting.pastPortal = true := by
  unfold boot at taken
  cases stands : s.booting with
  | ready | ended =>
      rw [stands] at taken
      exact nomatch taken
  | poll =>
      rw [stands] at taken
      refine ⟨_, _, (Option.some.inj taken).symm, ?_⟩
      cases s.isConnected <;> rfl
  | getIp =>
      rw [stands] at taken
      exact ⟨_, _, (Option.some.inj taken).symm, rfl⟩
  | expansionInit | tcpServerInit | httpApiInit =>
      rw [stands] at taken
      refine ⟨_, _, (Option.some.inj taken).symm, ?_⟩
      cases ok <;> rfl
  | initialise | load | await | waiting | decide _ | portal =>
      rw [stands] at past
      exact nomatch past

/-- What a step does. -/
inductive Stepped (s : State) : Action → State → Prop
  | event (event : WifiEvent) (idle : s.handling = .idle) :
      Stepped s (.event event) { s with handling := event.begins }
  | handle {s' : State} (handled : Handled s s') : Stepped s .handle s'
  | submit (up : s.httpd = true) (idle : s.serving = .idle) :
      Stepped s .submit { s with serving := .configure }
  | serve (elapsed : Bool) {s' : State} (taken : serve elapsed s = some s') :
      Stepped s (.serve elapsed) s'
  | boot (ok : Bool) {s' : State} (taken : boot ok s = some s') : Stepped s (.boot ok) s'

theorem step_cases {s s' : State} {action : Action} (taken : step s action = some s') :
    Stepped s action s' := by
  cases action with
  | event event =>
      replace taken : (if s.handling = .idle then some { s with handling := event.begins }
        else none) = some s' := taken
      by_cases idle : s.handling = .idle
      · rw [if_pos idle] at taken
        obtain rfl := Option.some.inj taken
        exact .event event idle
      · rw [if_neg idle] at taken
        exact nomatch taken
  | handle => exact .handle (handle_cases taken)
  | submit =>
      replace taken : (if s.httpd = true ∧ s.serving = .idle then
        some { s with serving := .configure } else none) = some s' := taken
      by_cases open_ : s.httpd = true ∧ s.serving = .idle
      · rw [if_pos open_] at taken
        obtain rfl := Option.some.inj taken
        exact .submit open_.1 open_.2
      · rw [if_neg open_] at taken
        exact nomatch taken
  | serve elapsed => exact .serve elapsed taken
  | boot ok => exact .boot ok taken

/-- The states reached from a state, with what has happened since. -/
inductive Reaches (start : State) : List Action → State → Prop
  | refl : Reaches start [] start
  | step {history : List Action} {s s' : State} (earlier : Reaches start history s) (action : Action)
      (taken : step s action = some s') : Reaches start (history ++ [action]) s'

/-- Actions one after the other, if all of them can be taken. -/
def takeAll (s : State) : List Action → Option State
  | [] => some s
  | action :: rest =>
      match step s action with
      | some s' => takeAll s' rest
      | none => none

theorem Reaches.extend {start s s' : State} {history : List Action} (earlier : Reaches start history s)
    {rest : List Action} (taken : takeAll s rest = some s') : Reaches start (history ++ rest) s' := by
  induction rest generalizing history s with
  | nil =>
      obtain rfl := Option.some.inj taken
      rw [List.append_nil]
      exact earlier
  | cons action rest ih =>
      unfold takeAll at taken
      cases stepped : WifiManager.step s action with
      | none =>
          rw [stepped] at taken
          exact nomatch taken
      | some next =>
          rw [stepped] at taken
          have reached := ih (earlier.step action stepped) taken
          rw [List.append_assoc, List.singleton_append] at reached
          exact reached

theorem reaches_of_takeAll {s s' : State} {actions : List Action} (taken : takeAll s actions = some s') :
    Reaches s actions s' :=
  Reaches.refl.extend taken

end FlipperMcp.WifiManager
