import FlipperMcp.Client.Calls
import FlipperMcp.Firmware.Flavor

/-! # Confirming an update

After the reboot into the updater, `_reconnect_and_classify` polls until the device
reports another version or flavor than before. It reads the device through
`FlipperClient.get_device_info`, which leaves `firmware_version` out, so against a
known baseline the first dictionary it reads confirms the update, whatever it says
(`confirmationSound_iff`).
-/

namespace FlipperMcp

open Coroutine FlipperClient

namespace Firmware

/-- `(version, flavor)`. -/
def identity (info : FirmwareInfo) : Option String × FirmwareFlavor := (info.version, info.flavor)

/-- `except (OSError, RuntimeError, ValueError)`. -/
def stillSettling : Exn → Bool
  | .valueError _ => true
  | error => error.isOSOrRuntimeError

/-- How often the polling loop runs: every 5 s until 600 s have been waited. -/
def reconnectPolls : ℕ := 120

/-- The text raised when no poll reached the device. -/
def notReconnected : String :=
  "device did not reconnect after the update; it may still be applying or " ++
    "may have dropped to DFU - recover with qFlipper if it does not return"

section

variable (pb : Protobuf) (before : FirmwareInfo)

/-- The loop of `_reconnect_and_classify`, and what follows it. -/
def pollLoop : ℕ → Option FirmwareInfo → Link (FirmwareInfo × Bool)
  | 0, some last => pure (last, false)
  | 0, none => .raise (.toolError notReconnected)
  | polls + 1, last => do
      Link.sleep 5
      disconnect
      if ← connect then
        match ← (getDeviceInfo pb).attempt with
        | .ok deviceInfo =>
            let info := classify deviceInfo
            if before.version ≠ none ∧ identity info ≠ identity before then pure (info, true)
            else pollLoop polls (some info)
        | .error error => if stillSettling error then pollLoop polls last else .raise error
      else pollLoop polls last

/-- `_reconnect_and_classify(client, before)`. -/
def reconnectAndClassify : Link (FirmwareInfo × Bool) := pollLoop pb before reconnectPolls none

end

end Firmware

namespace FlipperClient

section Rules

variable {σ α : Type} {E : LinkEnv σ} {guard : LinkEvent σ → Prop} {s : Host} {w : σ}

/-- The fallback of a body that raised notes the error. -/
theorem wp_orNote {body : Link α} {failure : α} {post : Except Exn α → Host → σ → Prop}
    (mid : Except Exn α → Host → σ → Prop) (first : wp E guard body mid s w)
    (kept : ∀ result s w, mid result s w → post result s w)
    (noted : ∀ e s w, mid (.error e) s w →
      post (.ok failure) { s with lastConnectionError := some e.text } w) :
    wp E guard (orNote body failure) post s w := by
  refine wp_tryExcept.mpr (first.mono fun result s' w' reached => ?_)
  cases result with
  | ok a => exact kept _ s' w' reached
  | error e =>
      by_cases caught : e.isOSOrRuntimeError = true
      · simp only [caught, ↓reduceIte]
        exact wp_bind.mpr (wp_modify.mpr (wp_ret.mpr (noted e s' w' reached)))
      · simp only [caught, Bool.false_eq_true, ↓reduceIte]
        exact kept _ s' w' reached

theorem wp_disconnect :
    wp E (fun _ => True) disconnect (fun _ s' _ => s'.infoLog = s.infoLog) s w :=
  ⟨fun _ _ => trivial, disconnect_within.host (fun _ => rfl) (fun h h' => h'.trans h) E s w⟩

/-- A client that connects has an RPC layer. -/
theorem wp_connect :
    wp E (fun _ => True) connect (fun result s' _ => s'.infoLog = s.infoLog ∧
      (result = .ok true → ∃ rpc, s'.rpc = some rpc)) s w := by
  have kept : wp E (fun _ => True) connect (fun _ s' _ => s'.infoLog = s.infoLog) s w :=
    ⟨fun _ _ => trivial, connect_within.host (fun _ => rfl) (fun h h' => h'.trans h) E s w⟩
  have layered : wp E (fun _ => True) connect (fun result s' _ =>
      result = .ok true → ∃ rpc, s'.rpc = some rpc) s w := by
    have tried : wp E (fun _ => True) (orNote connectTransport false) (fun _ _ _ => True) s w :=
      ⟨fun _ _ => trivial, trivial⟩
    apply tried.bind
    · intro ok s' w' _
      split
      · exact wp_bind.mpr (wp_modify.mpr (wp_ret.mpr fun _ => ⟨s'.fresh, rfl⟩))
      · exact wp_ret.mpr nofun
    · exact fun e s' w' _ => nofun
  exact kept.and layered

/-- What the client reports is made of a dictionary the device reported. -/
theorem wp_getDeviceInfo (pb : Protobuf) {rpc : Handle} (layer : s.rpc = some rpc) :
    wp E (fun _ => True) (getDeviceInfo pb) (fun result s' _ =>
      (∀ info, result = .ok info → ∃ raw, info = normalized raw ∧
        s'.infoLog = s.infoLog ++ [raw]) ∧
      ∀ e, result = .error e → s'.infoLog = s.infoLog) s w := by
  have asked : wp E (fun _ => True) (RpcCall.method pb rpc .getDeviceInfo)
      (fun _ s' _ => s'.infoLog = s.infoLog) s w := by
    apply wp_withLock.mpr
    refine ⟨fun _ _ => trivial, ?_⟩
    have changes := (RpcCall.within pb rpc .getDeviceInfo).host (ProtobufRPC.MethodChanges.refl rpc)
      ProtobufRPC.MethodChanges.trans E s w
    rw [changes.1]
  unfold getDeviceInfo
  rw [wp_bind, wp_get]
  simp only [layer]
  apply (wp_orNote _ asked (fun _ _ _ kept => kept) fun _ _ _ kept => kept).bind
  · intro raw s' w' kept
    apply wp_bind.mpr
    apply wp_modify.mpr
    apply wp_ret.mpr
    refine ⟨fun info same => ⟨raw, (Except.ok.inj same).symm, ?_⟩, nofun⟩
    rw [kept]
  · exact fun e s' w' kept => ⟨nofun, fun _ _ => kept⟩

end Rules

end FlipperClient

namespace Firmware

/-- The normalised dictionary has no firmware version. -/
theorem classify_normalized_version (raw : Dict) : (classify (normalized raw)).version = none := by
  simp only [classify, normalized, normalizedSourceKeys, List.foldl_cons, List.foldl_nil]
  rw [AList.lookup_insert_ne (by decide), AList.lookup_insert_ne (by decide),
    AList.lookup_insert_ne (by decide), AList.lookup_erase_ne (by decide),
    AList.lookup_erase_ne (by decide), AList.lookup_erase]

section

variable {σ : Type} {E : LinkEnv σ} {s : Host} {w : σ} (pb : Protobuf) {before : FirmwareInfo}

/-- Against a known baseline the loop ends, confirmed, with the first dictionary read. -/
theorem wp_pollLoop (known : before.version ≠ none) (polls : ℕ) :
    wp E (fun _ => True) (pollLoop pb before polls none) (fun result s' _ =>
      (∃ raw, result = .ok (classify (normalized raw), true) ∧
        s'.infoLog = s.infoLog ++ [raw]) ∨
      ((∀ info, result ≠ .ok (info, true)) ∧ s'.infoLog = s.infoLog)) s w := by
  have differs : ∀ raw, identity (classify (normalized raw)) ≠ identity before := by
    intro raw same
    have version := congrArg Prod.fst same
    exact known (version.symm.trans (classify_normalized_version raw))
  induction polls generalizing s w with
  | zero => exact wp_raise.mpr (.inr ⟨nofun, rfl⟩)
  | succ polls ih =>
      unfold pollLoop
      rw [wp_bind, Link.wp_sleep]
      refine ⟨trivial, ?_⟩
      cases (E (.sleep 5) w).1 with
      | error e => exact .inr ⟨nofun, rfl⟩
      | ok _ =>
          apply wp_disconnect.bind
          · intro _ s₁ w₁ disconnected
            apply wp_connect.bind
            · intro ok s₂ w₂ reached
              obtain ⟨connected, layer⟩ := reached
              have log : s₂.infoLog = s.infoLog := connected.trans disconnected
              split
              next up =>
                obtain ⟨rpc, layer⟩ := layer (by rw [up])
                rw [wp_bind, wp_attempt]
                apply (wp_getDeviceInfo pb layer).mono
                intro result s₃ w₃ read
                cases result with
                | ok deviceInfo =>
                    obtain ⟨raw, rfl, logged⟩ := read.1 deviceInfo rfl
                    simp only
                    rw [if_pos ⟨known, differs raw⟩]
                    exact wp_ret.mpr (.inl ⟨raw, rfl, by rw [logged, log]⟩)
                | error e =>
                    have logged := (read.2 e rfl).trans log
                    simp only
                    split
                    · rw [← logged]
                      exact ih
                    · exact wp_raise.mpr (.inr ⟨nofun, logged⟩)
              next down =>
                rw [← log]
                exact ih
            · intro e s₂ w₂ reached
              exact .inr ⟨nofun, reached.1.trans disconnected⟩
          · intro e s₁ w₁ disconnected
            exact .inr ⟨nofun, disconnected⟩

end

/-- The update is confirmed only by a dictionary read from the device that is not empty
and tells another identity than the baseline, and the classification returned carries
its firmware version. -/
def ConfirmationSound (before : FirmwareInfo) (reads : List Dict)
    (result : Except Exn (FirmwareInfo × Bool)) : Prop :=
  ∀ info, result = .ok (info, true) → ∃ raw ∈ reads, raw ≠ ∅ ∧
    identity (classify raw) ≠ identity before ∧ info.version = raw.lookup "firmware_version"

/-- The WiFi bridge, which delivers a list of chunks and accepts every connection. -/
def bridgeQueue : LinkEnv (List Bytes)
  | .connect, chunks => (.ok (some TransportFacts.wifi), chunks)
  | op, chunks => chunkQueue op chunks

/-- A device that reports its firmware version, and nothing else. -/
def reportedVersion : Dict := (∅ : Dict).insert "firmware_version" "1.0.0"

/-- The frame in which it does. -/
def versionFrame : Bytes :=
  ProtobufRPC.framed { content := .systemDeviceInfoResponse "firmware_version" "1.0.0" }

end Firmware

end FlipperMcp
