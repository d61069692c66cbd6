import FlipperMcp.Coroutine.Embedding
import FlipperMcp.Rpc.FileRead
import FlipperMcp.Tools.Registry

/-! # Pulling a file to the host

`flipperzero_fs_pull` over the host's files: it writes what the device returned, reads it back, and
only then compares the digests. What fails before the write leaves the files alone; a digest that is
missing or different leaves what was read from the device (`fsPullTo_leaves`).
-/

namespace FlipperMcp

open Coroutine FlipperClient

/-- What the paths of the host hold. -/
abbrev Files := String → Option Bytes

/-- The host's file system: `Path.write_bytes` and `Path.read_bytes`. -/
structure FileSystem where
  writeBytes : String → Bytes → Files → Except Exn Unit × Files
  readBytes : String → Files → Except Exn Bytes
  wrote : ∀ path data files, (writeBytes path data files).1 = .ok () →
    (writeBytes path data files).2 path = some data
  reads : ∀ path files data, readBytes path files = .ok data → files path = some data

namespace Tools

section

variable (pb : Protobuf) (md5 : Bytes → String) (disk : FileSystem)

/-- The read of `flipperzero_fs_pull`, and the digest the device reports after it. -/
def pullAndDigest (srcPath : String) : Link (Bytes × Option String) := classified do
  let rpc ← getRpc
  let (data : Bytes) ← RpcCall.method pb rpc (.storageRead srcPath)
  let (deviceMd5 : Option String) ← RpcCall.method pb rpc (.storageMd5sum srcPath)
  pure (data, deviceMd5)

/-- Run a coroutine of the link beside the host's files. -/
def besideFiles {α : Type} (body : Link α) : Coro (Host × Files) linkSignature Exn α :=
  body.zoom Prod.fst fun host s => (host, s.2)

/-- What is read back, and what the files are then. -/
def writeAndRead (path : String) (data : Bytes) (files : Files) : Except Exn Bytes × Files :=
  ((disk.writeBytes path data files).1.bind fun () =>
      disk.readBytes path (disk.writeBytes path data files).2,
    (disk.writeBytes path data files).2)

/-- `flipperzero_fs_pull` over the host's files. -/
def fsPullTo (srcPath localPath : String) : Coro (Host × Files) linkSignature Exn Json := do
  let (data, deviceMd5) ← besideFiles (pullAndDigest pb srcPath)
  let s ← Coro.get
  Coro.modify fun s => (s.1, (writeAndRead disk localPath data s.2).2)
  let written ← Coro.ofExcept
    (hostFile s!"cannot write local file {localPath}" (writeAndRead disk localPath data s.2).1)
  Coro.ofExcept (verifyMd5 (md5 written) deviceMd5 srcPath)
  pure (.dict [("local_path", .str localPath), ("bytes", .int written.length),
    ("md5", .str (md5 written)), ("verified", .bool true)])

variable {σ : Type} (E : LinkEnv σ)

theorem isPart_files : IsPart (Prod.fst : Host × Files → Host) fun host s => (host, s.2) where
  view_put _ _ := rfl
  put_put _ _ _ := rfl

/-- What is read back is what was written. -/
theorem writeAndRead_ok {path : String} {data back : Bytes} {files : Files}
    (read : (writeAndRead disk path data files).1 = .ok back) :
    back = data ∧ (writeAndRead disk path data files).2 path = some data := by
  unfold writeAndRead at read ⊢
  dsimp only at read ⊢
  cases wrote : (disk.writeBytes path data files).1 with
  | error e =>
      rw [wrote] at read
      exact nomatch read
  | ok value =>
      rw [wrote] at read
      have holds := disk.wrote path data files wrote
      have found := disk.reads path _ back read
      exact ⟨Option.some.inj (found.symm.trans holds), holds⟩

/-- How the call ends, and what it leaves, where the device's part raises. -/
theorem run_fsPullTo_error {srcPath localPath : String} {host : Host} {files : Files} {w : σ} {e : Exn}
    (raised : (run E (pullAndDigest pb srcPath) host w).result = .error e) :
    (run E (fsPullTo pb md5 disk srcPath localPath) (host, files) w).result = .error e ∧
      (run E (fsPullTo pb md5 disk srcPath localPath) (host, files) w).host.2 = files := by
  obtain ⟨result, left, _⟩ := run_zoom isPart_files E (pullAndDigest pb srcPath) host (host, files) w
  unfold fsPullTo besideFiles
  rw [run_bind, result, raised]
  dsimp only
  exact ⟨rfl, congrArg Prod.snd left⟩

/-- How the call ends, and what it leaves, where the device's part returns. -/
theorem run_fsPullTo_ok {srcPath localPath : String} {host : Host} {files : Files} {w : σ}
    {data : Bytes} {deviceMd5 : Option String}
    (returned : (run E (pullAndDigest pb srcPath) host w).result = .ok (data, deviceMd5)) :
    (run E (fsPullTo pb md5 disk srcPath localPath) (host, files) w).result = (do
        let written ← hostFile s!"cannot write local file {localPath}"
          (writeAndRead disk localPath data files).1
        verifyMd5 (md5 written) deviceMd5 srcPath
        pure (.dict [("local_path", .str localPath), ("bytes", .int written.length),
          ("md5", .str (md5 written)), ("verified", .bool true)])) ∧
      (run E (fsPullTo pb md5 disk srcPath localPath) (host, files) w).host.2 =
        (writeAndRead disk localPath data files).2 := by
  obtain ⟨result, left, _⟩ := run_zoom isPart_files E (pullAndDigest pb srcPath) host (host, files) w
  unfold fsPullTo besideFiles
  rw [run_bind, result, returned, left]
  dsimp only
  rw [run_bind, run_get]
  dsimp only
  rw [run_bind, run_modify]
  dsimp only
  rw [run_bind, run_ofExcept]
  cases back : hostFile s!"cannot write local file {localPath}"
      (writeAndRead disk localPath data files).1 with
  | error e => exact ⟨rfl, rfl⟩
  | ok written =>
      dsimp only
      rw [run_bind, run_ofExcept]
      change _ = (verifyMd5 (md5 written) deviceMd5 srcPath >>= fun _ => pure _) ∧ _
      cases verifyMd5 (md5 written) deviceMd5 srcPath with
      | error e => exact ⟨rfl, rfl⟩
      | ok value => exact ⟨rfl, rfl⟩

/-- Over the host's files the tool returns what it returns with what is read back of them. -/
theorem run_fsPullTo_fsPull (srcPath localPath : String) (host : Host) (files : Files) (w : σ) :
    (run E (fsPullTo pb md5 disk srcPath localPath) (host, files) w).result =
      (run E (fsPull pb md5 srcPath localPath fun data =>
        (writeAndRead disk localPath data files).1) host w).result := by
  have same : fsPull pb md5 srcPath localPath (fun data =>
      (writeAndRead disk localPath data files).1) =
      pullAndDigest pb srcPath >>= fun read => Coro.ofExcept (do
        let written ← hostFile s!"cannot write local file {localPath}"
          (writeAndRead disk localPath read.1 files).1
        verifyMd5 (md5 written) read.2 srcPath
        pure (.dict [("local_path", .str localPath), ("bytes", .int written.length),
          ("md5", .str (md5 written)), ("verified", .bool true)])) := by
    unfold fsPull pullAndDigest
    refine congrArg (Bind.bind _) (funext fun read => ?_)
    dsimp only
    cases hostFile s!"cannot write local file {localPath}"
        (writeAndRead disk localPath read.1 files).1 with
    | error e => rfl
    | ok written =>
        change (Coro.ofExcept (verifyMd5 (md5 written) read.2 srcPath) >>= fun _ => pure _) =
          Coro.ofExcept (verifyMd5 (md5 written) read.2 srcPath >>= fun _ => pure _)
        cases verifyMd5 (md5 written) read.2 srcPath with
        | error e => rfl
        | ok value => rfl
  rw [same, run_bind]
  cases read : (run E (pullAndDigest pb srcPath) host w).result with
  | error e => exact (run_fsPullTo_error pb md5 disk E read).1
  | ok value =>
      obtain ⟨data, deviceMd5⟩ := value
      rw [(run_fsPullTo_ok pb md5 disk E read).1]
      dsimp only
      rw [run_ofExcept]
      rfl

/-- The digests agree. -/
def Agrees (deviceMd5 : Option String) (localMd5 : String) : Prop :=
  ∃ digest, deviceMd5 = some digest ∧ Python.lower digest = Python.lower localMd5

theorem verifyMd5_ok {localMd5 path : String} {deviceMd5 : Option String} :
    verifyMd5 localMd5 deviceMd5 path = .ok () ↔ Agrees deviceMd5 localMd5 := by
  unfold verifyMd5 Agrees
  cases deviceMd5 with
  | none => exact ⟨nofun, fun ⟨_, none_, _⟩ => nomatch none_⟩
  | some digest =>
      dsimp only
      by_cases same : Python.lower digest = Python.lower localMd5
      · rw [if_neg (not_not_intro same)]
        exact ⟨fun _ => ⟨digest, rfl, same⟩, fun _ => rfl⟩
      · rw [if_pos same]
        refine ⟨nofun, fun ⟨other, found, agrees⟩ => absurd ?_ same⟩
        rw [Option.some.inj found]
        exact agrees

/-- **What a pull leaves of the host's files.** If the connection, the read or the digest query
raises, the files are as they were. Otherwise what the device's read returned is written, and once
it can be read back the path holds exactly that: whether the call returns or raises, which it does
if and only if the device reported no digest, or a different one. -/
theorem fsPullTo_leaves (srcPath localPath : String) (host : Host) (files : Files) (w : σ) :
    let device := run E (pullAndDigest pb srcPath) host w
    let o := run E (fsPullTo pb md5 disk srcPath localPath) (host, files) w
    (∀ e, device.result = .error e → o.result = .error e ∧ o.host.2 = files) ∧
      ∀ data deviceMd5 back, device.result = .ok (data, deviceMd5) →
        (writeAndRead disk localPath data files).1 = .ok back →
        o.host.2 localPath = some data ∧
          ((∃ answer, o.result = .ok answer) ↔ Agrees deviceMd5 (md5 data)) := by
  dsimp only
  constructor
  · intro e raised
    exact run_fsPullTo_error pb md5 disk E raised
  · intro data deviceMd5 back returned read
    obtain ⟨rfl, holds⟩ := writeAndRead_ok disk read
    obtain ⟨result, left⟩ := @run_fsPullTo_ok pb md5 disk σ E srcPath localPath host files w _ _ returned
    rw [result, left]
    refine ⟨holds, ?_⟩
    rw [← @verifyMd5_ok (md5 back) srcPath, read]
    change (∃ answer, (verifyMd5 (md5 back) deviceMd5 srcPath >>= fun _ => pure _) = .ok answer) ↔ _
    cases verifyMd5 (md5 back) deviceMd5 srcPath with
    | error e => exact ⟨fun ⟨_, ok⟩ => (nomatch ok), nofun⟩
    | ok value => exact ⟨fun _ => rfl, fun _ => ⟨_, rfl⟩⟩

end

/-- A disk on which everything can be written and read. -/
def plainDisk : FileSystem where
  writeBytes path data files := (.ok (), Function.update files path (some data))
  readBytes path files := match files path with
    | some data => .ok data
    | none => .error (.osError "No such file or directory")
  wrote path data files _ := Function.update_self path (some data) files
  reads path files data read := by
    cases found : files path with
    | none =>
        rw [found] at read
        exact nomatch read
    | some held =>
        rw [found] at read
        exact congrArg some (Except.ok.inj read)

/-- A connected client whose session is up. -/
def clientUp : Host := { ProtobufRPC.sessionUp with rpc := some 0, fresh := 1 }

/-- Without an RPC layer nothing is written. -/
theorem fsPullTo_leaves_unconnected :
    (run chunkQueue (fsPullTo Protobuf.wire (fun _ => "a") plainDisk "/ext/a" "/tmp/a")
      ({ clientUp with rpc := none }, fun _ => some [1, 2, 3]) []).host.2 = fun _ => some [1, 2, 3] := by
  have raised : (run chunkQueue (pullAndDigest Protobuf.wire "/ext/a") { clientUp with rpc := none }
      []).result = .error (classifyClientError (.flipperNotConnectedError "RPC layer unavailable")) := by
    decide +kernel
  exact ((fsPullTo_leaves Protobuf.wire (fun _ => "a") plainDisk chunkQueue "/ext/a" "/tmp/a"
    { clientUp with rpc := none } (fun _ => some [1, 2, 3]) []).1 _ raised).2

/-- **A pull that fails overwrites the file.** One digest differs from that of what was read; with
the other device the read fails, no digest is reported, and the file is emptied. -/
theorem fsPullTo_overwrites :
    let o := run chunkQueue (fsPullTo Protobuf.wire (fun _ => "a") plainDisk "/ext/a" "/tmp/a")
      (clientUp, fun _ => some [1, 2, 3])
    let differing := [ProtobufRPC.framed (ProtobufRPC.readFrame [9] false),
      ProtobufRPC.framed { content := .storageMd5sumResponse "b" }]
    (o differing).result =
        .error (.toolError "integrity mismatch for /ext/a: local MD5 a != device MD5 b") ∧
      (o differing).host.2 "/tmp/a" = some [9] ∧
      (o []).result = .error (.toolError
        "integrity check failed for /ext/a: device did not return an MD5 digest") ∧
      (o []).host.2 "/tmp/a" = some [] := by
  have read : (run chunkQueue (pullAndDigest Protobuf.wire "/ext/a") clientUp
      [ProtobufRPC.framed (ProtobufRPC.readFrame [9] false),
        ProtobufRPC.framed { content := .storageMd5sumResponse "b" }]).result = .ok ([9], some "b") := by
    decide +kernel
  have silent : (run chunkQueue (pullAndDigest Protobuf.wire "/ext/a") clientUp []).result =
      .ok ([], none) := by decide +kernel
  have first := @run_fsPullTo_ok Protobuf.wire (fun _ => "a") plainDisk _ chunkQueue "/ext/a" "/tmp/a"
    clientUp (fun _ => some [1, 2, 3]) _ _ _ read
  have second := @run_fsPullTo_ok Protobuf.wire (fun _ => "a") plainDisk _ chunkQueue "/ext/a" "/tmp/a"
    clientUp (fun _ => some [1, 2, 3]) _ _ _ silent
  exact ⟨first.1.trans rfl, congrFun first.2 _, second.1.trans rfl, congrFun second.2 _⟩

end Tools

end FlipperMcp
