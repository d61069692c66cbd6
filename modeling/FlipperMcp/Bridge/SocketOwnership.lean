import FlipperMcp.Bridge.TcpServer

/-! # Socket ownership

A receive task whose client was replaced still holds the number of its closed descriptor,
and closes it once more at its end. While `accept` returns no number that such a task holds,
every descriptor is used for the client it belongs to (`sockets_owned`).
-/

namespace FlipperMcp

open Kernel

namespace TcpServer

/-- `accept` returns no descriptor that a receive task holds. -/
def Unheld (s : State) : Action → Prop
  | .accept newSock => ∀ client task, s.rxTask client = some task → task.sock ≠ newSock
  | _ => True

/-- Who holds the descriptors. -/
structure Owned (s : State) : Prop where
  sound : s.table.Sound
  apart : s.table.Apart
  held : ∀ client task, s.rxTask client = some task → 0 ≤ task.sock ∧ client < s.table.opened ∧
    (s.table.owner task.sock = none ∨ s.table.owner task.sock = some client)
  kept : ∀ sock client, s.table.owner sock = some client → s.accepting = .accepted sock client ∨
    (s.sClientSock = sock ∧ s.latest = some client ∧
      (s.accepting = .taken sock client s.sClientGeneration ∨
        ∃ task, s.rxTask client = some task ∧ task.sock = sock ∧ task.gen = s.sClientGeneration))
  current : 0 ≤ s.sClientSock →
    ∃ client, s.latest = some client ∧ s.table.owner s.sClientSock = some client
  pending : ∀ sock client, s.accepting = .accepted sock client → 0 ≤ sock ∧
    s.table.owner sock = some client ∧ client + 1 = s.table.opened ∧ s.rxTask client = none
  taken : ∀ sock client gen, s.accepting = .taken sock client gen → 0 ≤ sock ∧
    s.table.owner sock = some client ∧ client + 1 = s.table.opened ∧ s.rxTask client = none
  newest : ∀ client, s.latest = some client →
    (client + 1 = s.table.opened ∧ ∀ sock other, s.accepting ≠ .accepted sock other) ∨
      ∃ newSock, s.accepting = .accepted newSock (client + 1) ∧ client + 2 = s.table.opened

namespace Owned

variable {s : State}

theorem init : Owned init where
  sound := Table.sound_empty
  apart _ member := nomatch member
  held _ _ runs := nomatch runs
  kept _ _ held := nomatch held
  current valid := absurd valid (by decide)
  pending _ _ stands := nomatch stands
  taken _ _ _ stands := nomatch stands
  newest _ last := nomatch last

/-- A client that is not taken over yet is not the latest. -/
theorem latest_ne (owned : Owned s) {sock : ℤ} {client : ℕ} (stands : s.accepting = .accepted sock client) :
    s.latest ≠ some client := by
  intro last
  rcases owned.newest client last with ⟨-, none_⟩ | ⟨newSock, stands', -⟩
  · exact none_ sock client stands
  · rw [stands] at stands'
    exact absurd (Accepting.accepted.inj stands').2 (Nat.ne_of_lt (Nat.lt_succ_self _))

/-- Without the descriptor of `s_client_sock`, the only open one is a client's that is not
taken over yet. -/
theorem only_pending (owned : Owned s) {sock : ℤ} {client other : ℕ}
    (held : (s.table.close s.sClientSock other).owner sock = some client) :
    s.accepting = .accepted sock client ∧ s.table.owner sock = some client := by
  obtain ⟨ne, held⟩ := Table.owner_of_close held
  rcases owned.kept sock client held with stands | ⟨same, -⟩
  · exact ⟨stands, held⟩
  · exact absurd same.symm ne

/-- The client in front of the start of its receive task is the current one. -/
theorem of_taken (owned : Owned s) {sock : ℤ} {client : ℕ} {gen : UInt32}
    (stands : s.accepting = .taken sock client gen) :
    s.sClientSock = sock ∧ s.latest = some client ∧ gen = s.sClientGeneration := by
  obtain ⟨-, open_, -, none_⟩ := owned.taken sock client gen stands
  rcases owned.kept sock client open_ with other | ⟨same, last, stands' | ⟨task, runs, -⟩⟩
  · rw [stands] at other
    exact nomatch other
  · rw [stands] at stands'
    exact ⟨same, last, (Accepting.taken.inj stands').2.2⟩
  · rw [none_] at runs
    exact nomatch runs

theorem accept (owned : Owned s) {newSock : ℤ} (waits : s.accepting = .waiting) (valid : 0 ≤ newSock)
    (free : s.table.owner newSock = none) (unheld : Unheld s (.accept newSock)) :
    Owned { s with table := s.table.allot newSock, accepting := .accepted newSock s.table.opened } where
  sound := owned.sound.allot valid free
  apart := owned.apart
  held client task runs := by
    obtain ⟨bound, below, meets⟩ := owned.held client task runs
    refine ⟨bound, Nat.lt_succ_of_lt below, ?_⟩
    rw [Table.allot_owner_of_ne (unheld client task runs)]
    exact meets
  kept sock client held := by
    by_cases same : sock = newSock
    · subst same
      rw [Table.allot_owner] at held
      obtain rfl := Option.some.inj held
      exact .inl rfl
    · rw [Table.allot_owner_of_ne same] at held
      rcases owned.kept sock client held with stands | ⟨current, last, stands | task⟩
      · rw [waits] at stands
        exact nomatch stands
      · rw [waits] at stands
        exact nomatch stands
      · exact .inr ⟨current, last, .inr task⟩
  current valid' := by
    obtain ⟨client, last, open_⟩ := owned.current valid'
    refine ⟨client, last, (Table.allot_owner_of_ne ?_).trans open_⟩
    intro same
    rw [same, free] at open_
    exact nomatch open_
  pending sock client stands := by
    obtain ⟨rfl, rfl⟩ := Accepting.accepted.inj stands
    refine ⟨valid, Table.allot_owner, rfl, ?_⟩
    rw [Option.eq_none_iff_forall_ne_some]
    intro task runs
    exact Nat.lt_irrefl _ (owned.held _ task runs).2.1
  taken _ _ _ stands := nomatch stands
  newest client last := by
    rcases owned.newest client last with ⟨same, -⟩ | ⟨newSock', stands, -⟩
    · exact .inr ⟨newSock, by rw [same], congrArg (· + 1) same⟩
    · rw [waits] at stands
      exact nomatch stands

theorem takeOver (owned : Owned s) {newSock : ℤ} {client : ℕ} (stands : s.accepting = .accepted newSock client) :
    Owned (takeOver newSock client s) := by
  obtain ⟨bound, open_, last, none_⟩ := owned.pending newSock client stands
  have other := owned.latest_ne stands
  unfold TcpServer.takeOver
  by_cases valid : 0 ≤ s.sClientSock
  · obtain ⟨before, latest, current⟩ := owned.current valid
    rw [if_pos valid, latest]
    have ne : newSock ≠ s.sClientSock := by
      intro same
      rw [← same, open_] at current
      rw [← current] at latest
      exact other latest
    have still : (s.table.close s.sClientSock before).owner newSock = some client :=
      (Table.close_owner_of_ne ne).trans open_
    exact {
      sound := owned.sound.close
      apart := owned.apart.close (.inr current)
      held := fun client' task runs => by
        obtain ⟨bound', below, meets⟩ := owned.held client' task runs
        exact ⟨bound', below, Table.close_meets meets⟩
      kept := fun sock client' held => by
        obtain ⟨stands', -⟩ := owned.only_pending held
        rw [stands] at stands'
        obtain ⟨rfl, rfl⟩ := Accepting.accepted.inj stands'
        exact .inr ⟨rfl, rfl, .inl rfl⟩
      current := fun _ => ⟨client, rfl, still⟩
      pending := fun _ _ stands' => nomatch stands'
      taken := fun sock client' gen stands' => by
        obtain ⟨rfl, rfl, -⟩ := Accepting.taken.inj stands'
        exact ⟨bound, still, last, none_⟩
      newest := fun client' latest' => by
        obtain rfl := Option.some.inj latest'
        exact .inl ⟨last, fun _ _ stands' => nomatch stands'⟩ }
  · rw [if_neg valid]
    exact {
      sound := owned.sound
      apart := owned.apart
      held := owned.held
      kept := fun sock client' held => by
        rcases owned.kept sock client' held with stands' | ⟨same, -⟩
        · rw [stands] at stands'
          obtain ⟨rfl, rfl⟩ := Accepting.accepted.inj stands'
          exact .inr ⟨rfl, rfl, .inl rfl⟩
        · exact absurd (same ▸ (owned.sound.issued sock client' held).1) valid
      current := fun _ => ⟨client, rfl, open_⟩
      pending := fun _ _ stands' => nomatch stands'
      taken := fun sock client' gen stands' => by
        obtain ⟨rfl, rfl, -⟩ := Accepting.taken.inj stands'
        exact ⟨bound, open_, last, none_⟩
      newest := fun client' latest' => by
        obtain rfl := Option.some.inj latest'
        exact .inl ⟨last, fun _ _ stands' => nomatch stands'⟩ }

theorem discard (owned : Owned s) {newSock : ℤ} {client : ℕ} {gen : UInt32}
    (stands : s.accepting = .taken newSock client gen) : Owned (discard newSock client s) := by
  obtain ⟨bound, open_, last, none_⟩ := owned.taken newSock client gen stands
  obtain ⟨same, latest, -⟩ := owned.of_taken stands
  unfold TcpServer.discard
  rw [if_pos same]
  exact {
    sound := owned.sound.close
    apart := owned.apart.close (.inr (same ▸ open_))
    held := fun client' task runs => by
      obtain ⟨bound', below, meets⟩ := owned.held client' task runs
      exact ⟨bound', below, Table.close_meets meets⟩
    kept := fun sock client' held => by
      obtain ⟨stands', -⟩ := owned.only_pending held
      rw [stands] at stands'
      exact nomatch stands'
    current := fun valid => absurd valid (by decide : ¬ (0 : ℤ) ≤ -1)
    pending := fun _ _ stands' => nomatch stands'
    taken := fun _ _ _ stands' => nomatch stands'
    newest := fun client' latest' => by
      obtain rfl := Option.some.inj (latest.symm.trans latest')
      exact .inl ⟨last, fun _ _ stands' => nomatch stands'⟩ }

theorem startRx (owned : Owned s) {newSock : ℤ} {client : ℕ} {gen : UInt32}
    (stands : s.accepting = .taken newSock client gen) : Owned (startRx newSock client gen s) := by
  obtain ⟨bound, open_, last, none_⟩ := owned.taken newSock client gen stands
  obtain ⟨same, latest, rfl⟩ := owned.of_taken stands
  unfold TcpServer.startRx
  exact {
    sound := owned.sound
    apart := owned.apart
    held := fun client' task runs => by
      by_cases new : client' = client
      · subst new
        change Function.update _ _ _ _ = _ at runs
        rw [Function.update_self] at runs
        obtain rfl := Option.some.inj runs
        exact ⟨bound, Nat.lt_of_succ_le (Nat.le_of_eq last), .inr open_⟩
      · change Function.update _ _ _ _ = _ at runs
        rw [Function.update_of_ne new] at runs
        exact owned.held client' task runs
    kept := fun sock client' held => by
      rcases owned.kept sock client' held with stands' | ⟨current, latest', -⟩
      · rw [stands] at stands'
        exact nomatch stands'
      · obtain rfl := Option.some.inj (latest.symm.trans latest')
        exact .inr ⟨current, latest', .inr ⟨_, Function.update_self .., same.symm.trans current, rfl⟩⟩
    current := owned.current
    pending := fun _ _ stands' => nomatch stands'
    taken := fun _ _ _ stands' => nomatch stands'
    newest := fun client' latest' => by
      obtain rfl := Option.some.inj (latest.symm.trans latest')
      exact .inl ⟨last, fun _ _ stands' => nomatch stands'⟩ }

theorem receive (owned : Owned s) {client : ℕ} {task : RxTask} (leaves : Bool)
    (runs : s.rxTask client = some task) : Owned (receive client task leaves s) := by
  obtain ⟨bound, below, meets⟩ := owned.held client task runs
  have idle : ∀ other, s.rxTask other = none →
      Function.update s.rxTask client (some { task with leaving := leaves }) other = none := by
    intro other none_
    rw [Function.update_of_ne, none_]
    intro same
    rw [same, runs] at none_
    exact nomatch none_
  unfold TcpServer.receive
  exact {
    sound := owned.sound.receive
    apart := owned.apart.receive meets
    held := fun client' task' runs' => by
      by_cases same : client' = client
      · subst same
        change Function.update _ _ _ _ = _ at runs'
        rw [Function.update_self] at runs'
        obtain rfl := Option.some.inj runs'
        exact ⟨bound, below, meets⟩
      · change Function.update _ _ _ _ = _ at runs'
        rw [Function.update_of_ne same] at runs'
        exact owned.held client' task' runs'
    kept := fun sock client' held => by
      rcases owned.kept sock client' held with stands | ⟨current, latest, stands | ⟨task', runs', held', gen⟩⟩
      · exact .inl stands
      · exact .inr ⟨current, latest, .inl stands⟩
      · by_cases same : client' = client
        · subst same
          obtain rfl := Option.some.inj (runs.symm.trans runs')
          exact .inr ⟨current, latest, .inr ⟨_, Function.update_self .., held', gen⟩⟩
        · exact .inr ⟨current, latest, .inr ⟨task', (Function.update_of_ne same ..).trans runs', held', gen⟩⟩
    current := owned.current
    pending := fun sock client' stands => by
      obtain ⟨valid, open_, last, none_⟩ := owned.pending sock client' stands
      exact ⟨valid, open_, last, idle client' none_⟩
    taken := fun sock client' gen stands => by
      obtain ⟨valid, open_, last, none_⟩ := owned.taken sock client' gen stands
      exact ⟨valid, open_, last, idle client' none_⟩
    newest := owned.newest }

/-- The descriptor of a receive task is current and its client's, or free. -/
theorem of_rxTask (owned : Owned s) {client : ℕ} {task : RxTask} (runs : s.rxTask client = some task) :
    (s.sClientSock = task.sock ∧ s.sClientGeneration = task.gen ∧ s.table.owner task.sock = some client ∧
      s.latest = some client) ∨ (s.sClientSock ≠ task.sock ∧ s.table.owner task.sock = none) := by
  obtain ⟨bound, -, free | open_⟩ := owned.held client task runs
  · refine .inr ⟨fun same => ?_, free⟩
    obtain ⟨other, -, open_⟩ := owned.current (same ▸ bound)
    rw [same, free] at open_
    exact nomatch open_
  · rcases owned.kept task.sock client open_ with stands | ⟨same, last, stands | ⟨task', runs', -, gen⟩⟩
    · rw [(owned.pending _ client stands).2.2.2] at runs
      exact nomatch runs
    · rw [(owned.taken _ client _ stands).2.2.2] at runs
      exact nomatch runs
    · obtain rfl := Option.some.inj (runs.symm.trans runs')
      exact .inl ⟨same, gen.symm, open_, last⟩

theorem cleanUp (owned : Owned s) {client : ℕ} {task : RxTask} (runs : s.rxTask client = some task) :
    Owned (cleanUp client task s) := by
  have idle : ∀ other, s.rxTask other = none → Function.update s.rxTask client none other = none := by
    intro other none_
    by_cases same : other = client
    · rw [same, Function.update_self]
    · rw [Function.update_of_ne same, none_]
  have others : ∀ other task', Function.update s.rxTask client none other = some task' →
      other ≠ client ∧ s.rxTask other = some task' := by
    intro other task' runs'
    by_cases same : other = client
    · rw [same, Function.update_self] at runs'
      exact nomatch runs'
    · rw [Function.update_of_ne same] at runs'
      exact ⟨same, runs'⟩
  unfold TcpServer.cleanUp
  rcases owned.of_rxTask runs with ⟨same, gen, open_, last⟩ | ⟨ne, free⟩
  · rw [if_pos ⟨same, gen⟩]
    exact {
      sound := owned.sound.close
      apart := owned.apart.close (.inr (same ▸ open_))
      held := fun client' task' runs' => by
        obtain ⟨bound, below, meets⟩ := owned.held client' task' (others client' task' runs').2
        exact ⟨bound, below, Table.close_meets meets⟩
      kept := fun sock client' held => .inl (owned.only_pending held).1
      current := fun valid => absurd valid (by decide : ¬ (0 : ℤ) ≤ -1)
      pending := fun sock client' stands => by
        obtain ⟨valid, open', newest, none_⟩ := owned.pending sock client' stands
        have apart : sock ≠ s.sClientSock := by
          intro same'
          rw [same', same, open_] at open'
          rw [← Option.some.inj open', runs] at none_
          exact nomatch none_
        exact ⟨valid, (Table.close_owner_of_ne apart).trans open', newest, idle client' none_⟩
      taken := fun sock client' gen' stands => by
        obtain ⟨-, -, -, none_⟩ := owned.taken sock client' gen' stands
        obtain ⟨-, last', -⟩ := owned.of_taken stands
        rw [Option.some.inj (last'.symm.trans last), runs] at none_
        exact nomatch none_
      newest := owned.newest }
  · rw [if_neg fun both => ne both.1]
    have same : (s.table.close task.sock client).owner = s.table.owner := Table.close_free free
    exact {
      sound := owned.sound.close
      apart := owned.apart.close (.inl free)
      held := fun client' task' runs' => by
        obtain ⟨bound, below, meets⟩ := owned.held client' task' (others client' task' runs').2
        exact ⟨bound, below, Table.close_meets meets⟩
      kept := fun sock client' held => by
        change (s.table.close task.sock client).owner sock = _ at held
        rw [same] at held
        rcases owned.kept sock client' held with stands | ⟨current, last, stands | ⟨task', runs', held', gen⟩⟩
        · exact .inl stands
        · exact .inr ⟨current, last, .inl stands⟩
        · have other : client' ≠ client := by
            rintro rfl
            obtain rfl := Option.some.inj (runs.symm.trans runs')
            exact ne (current.trans held'.symm)
          exact .inr ⟨current, last, .inr ⟨task', (Function.update_of_ne other ..).trans runs', held', gen⟩⟩
      current := fun valid => by
        obtain ⟨client', last, open_⟩ := owned.current valid
        exact ⟨client', last, (congrFun same _).trans open_⟩
      pending := fun sock client' stands => by
        obtain ⟨valid, open_, newest, none_⟩ := owned.pending sock client' stands
        exact ⟨valid, (congrFun same _).trans open_, newest, idle client' none_⟩
      taken := fun sock client' gen stands => by
        obtain ⟨valid, open_, newest, none_⟩ := owned.taken sock client' gen stands
        exact ⟨valid, (congrFun same _).trans open_, newest, idle client' none_⟩
      newest := owned.newest }

/-- Every step keeps the descriptors with their owners. -/
theorem step (owned : Owned s) {action : Action} {s' : State} (unheld : Unheld s action)
    (step : Step s action s') : Owned s' := by
  cases step with
  | accept waits valid free => exact owned.accept waits valid free unheld
  | takeOver stands => exact owned.takeOver stands
  | discard stands => exact owned.discard stands
  | startRx stands => exact owned.startRx stands
  | receive leaves runs _ => exact owned.receive leaves runs
  | cleanUp runs _ => exact owned.cleanUp runs

theorem socketsOwned (owned : Owned s) : SocketsOwned s where
  once client below := by
    have counted := owned.sound.counted client below
    refine ⟨by rcases counted with ⟨-, closed⟩ | ⟨-, closed⟩ <;> omega, fun done => ?_⟩
    rcases counted with ⟨⟨sock, open_⟩, -⟩ | ⟨-, closed⟩
    · obtain ⟨none_, pending, taken⟩ := done
      rcases owned.kept sock client open_ with stands | ⟨-, -, stands | ⟨task, runs, -⟩⟩
      · exact absurd stands (pending sock)
      · exact absurd stands (taken sock _)
      · rw [none_] at runs
        exact nomatch runs
    · exact closed
  apart := owned.apart
  current valid := by
    obtain ⟨client, last, open_⟩ := owned.current valid
    refine ⟨client, open_, ?_⟩
    rcases owned.newest client last with ⟨same, -⟩ | pending
    · exact .inl same
    · exact .inr pending

end Owned

theorem Reached.owned {s : State} (reached : Reached Unheld s) : Owned s := by
  induction reached with
  | init => exact .init
  | step _ ok step ih => exact ih.step ok step

/-- **Sockets are owned** while `accept` returns no number that a receive task still holds. -/
theorem sockets_owned {s : State} (reached : Reached Unheld s) : SocketsOwned s :=
  reached.owned.socketsOwned

section Visits

/-- A client is accepted and taken over, and its receive task started. -/
def visit (newSock : ℤ) (s : State) : State :=
  startRx newSock s.table.opened (s.sClientGeneration + 1) (takeOver newSock s.table.opened
    { s with table := s.table.allot newSock, accepting := .accepted newSock s.table.opened })

theorem takeOver_accepting (newSock : ℤ) (client : ℕ) (s : State) :
    (takeOver newSock client s).accepting = .taken newSock client (s.sClientGeneration + 1) := by
  unfold takeOver
  by_cases valid : 0 ≤ s.sClientSock
  · rw [if_pos valid]
    rfl
  · rw [if_neg valid]

theorem Reached.visit {allowed : State → Action → Prop} {s : State} {newSock : ℤ} (reached : Reached allowed s)
    (waits : s.accepting = .waiting) (valid : 0 ≤ newSock) (free : s.table.owner newSock = none)
    (ok : allowed s (.accept newSock)) (takes : ∀ s, allowed s .takeOver) (starts : ∀ s, allowed s .startRx) :
    Reached allowed (visit newSock s) :=
  ((reached.step ok (.accept waits valid free)).step (takes _) (.takeOver rfl)).step (starts _)
    (.startRx (takeOver_accepting newSock _ _))

end Visits

/-- A client is replaced, and its receive task ends. -/
theorem sockets_owned_replaced :
    SocketsOwned (cleanUp 0 ⟨3, 1, true⟩ (receive 0 ⟨3, 1, false⟩ true (visit 4 (visit 3 init)))) := by
  have first : Reached Unheld (visit 3 init) :=
    .visit .init rfl (by decide) rfl (fun _ _ runs => nomatch runs) (fun _ => trivial) fun _ => trivial
  have unheld : Unheld (visit 3 init) (.accept 4) := by
    intro client task runs
    change Function.update (fun _ => none) 0 _ client = _ at runs
    by_cases same : client = 0
    · rw [same, Function.update_self] at runs
      rw [← Option.some.inj runs]
      decide
    · rw [Function.update_of_ne same] at runs
      exact nomatch runs
  have second : Reached Unheld (visit 4 (visit 3 init)) :=
    first.visit rfl (by decide) rfl unheld (fun _ => trivial) fun _ => trivial
  have read := @Reached.step Unheld _ _ (.receive 0 true) second trivial (.receive true rfl rfl)
  exact sockets_owned (@Reached.step Unheld _ _ (.cleanUp 0) read trivial (.cleanUp rfl rfl))

/-- A third client gets the number the first one's receive task still reads from. -/
theorem sockets_reused : ¬ ∀ s, Reached (fun _ _ => True) s → SocketsOwned s := by
  intro owned
  have ok : ∀ s : State, True := fun _ => trivial
  have first : Reached (fun _ _ => True) (visit 3 init) := .visit .init rfl (by decide) rfl trivial ok ok
  have second := @Reached.visit _ _ 4 first rfl (by decide) rfl trivial ok ok
  have third := @Reached.visit _ _ 3 second rfl (by decide) rfl trivial ok ok
  have read := third.step trivial (.receive false rfl rfl : Step _ (.receive 0 false) _)
  have meets := (owned _ read).apart ⟨false, 0, some 2⟩ (List.mem_append_right _ (List.mem_singleton.mpr rfl))
  rcases meets with free | own
  · exact nomatch free
  · exact nomatch own

end TcpServer

end FlipperMcp
