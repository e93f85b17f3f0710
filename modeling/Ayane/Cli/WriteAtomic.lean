import Ayane.Crates
import Ayane.Lib.Effect
import Ayane.Lib.Lossy
import Ayane.Lib.Text
import Ayane.Testca
import Mathlib.Logic.Function.Basic

/-!
# Replacing a file

`ayane-cli/src/cmd/mod.rs`: a file is replaced by writing another one beside it and renaming that.
Every call to the system may fail. What a failure leaves behind is undone after the permissions are
set and after the renaming; it is not after the writing, which may have written a part.
-/

namespace Ayane.Cli

open Effect

/-! ## Files -/

/-- A file, with its permission bits. -/
@[ext] structure File where
  contents : Bytes
  mode : ℕ
  deriving DecidableEq

/-- A name in a directory. -/
structure Location where
  dir : Bytes
  name : Bytes
  deriving DecidableEq

abbrev FileSystem := Location → Option File

/-- `std::path::Path`, by what is asked of it. -/
structure Path where
  parent : Option Bytes
  fileName : Option Bytes
  /-- The path as it is displayed for debugging. -/
  debug : String

/-- What the system does at each call: the error of a call that fails. -/
structure Syscalls where
  /-- The bits of a file that is created by being opened. -/
  creationMode : ℕ
  /-- The metadata of a file that is there cannot be read. -/
  metadataFails : Bool
  create : Option String
  /-- Writing stops after some bytes. -/
  write : Option (ℕ × String)
  setPermissions : Option String
  rename : Option String
  removeFails : Bool

/-- Computations on the files. -/
abbrev FileAction := EStateM String FileSystem

namespace FileSystem

variable (sys : Syscalls)

/-- `std::fs::metadata`, and the mode. -/
def mode (path : Location) (files : FileSystem) : Option ℕ :=
  if sys.metadataFails then none else (files path).map File.mode

/-- `std::fs::write`: a file that is there keeps its bits. -/
def write (path : Location) (contents : Bytes) : FileAction Unit := fun files =>
  match sys.create with
  | some e => .error e files
  | none =>
    let mode := ((files path).map File.mode).getD sys.creationMode
    match sys.write with
    | some (n, e) => .error e (Function.update files path (some ⟨contents.take n, mode⟩))
    | none => .ok () (Function.update files path (some ⟨contents, mode⟩))

def setPermissions (path : Location) (mode : ℕ) : FileAction Unit := fun files =>
  match sys.setPermissions with
  | some e => .error e files
  | none =>
    match files path with
    | some file => .ok () (Function.update files path (some { file with mode }))
    | none => .error "No such file or directory (os error 2)" files

def rename (source target : Location) : FileAction Unit := fun files =>
  match sys.rename with
  | some e => .error e files
  | none =>
    match files source with
    | some file => .ok () (Function.update (Function.update files target (some file)) source none)
    | none => .error "No such file or directory (os error 2)" files

/-- `std::fs::remove_file`, whose result is dropped. -/
def removeFile (path : Location) (files : FileSystem) : FileSystem :=
  if sys.removeFails then files else Function.update files path none

/-- Do something, and remove a file when it fails. -/
def orRemove (path : Location) (action : FileAction Unit) : FileAction Unit := fun files =>
  match action.run files with
  | .ok () files => .ok () files
  | .error e files => .error e (removeFile sys path files)

/-! ### Runs -/

variable {sys} {path target : Location} {contents : Bytes} {files : FileSystem} {file : File} {e : String}

theorem run_write_of_create (h : sys.create = some e) :
    (write sys path contents).run files = .error e files := by
  simp [EStateM.run, write, h]

theorem run_write_of_write {n : ℕ} (hcreate : sys.create = none) (h : sys.write = some (n, e)) :
    (write sys path contents).run files =
      .error e (Function.update files path
        (some ⟨contents.take n, ((files path).map File.mode).getD sys.creationMode⟩)) := by
  simp [EStateM.run, write, hcreate, h]

theorem run_write (hcreate : sys.create = none) (h : sys.write = none) :
    (write sys path contents).run files =
      .ok () (Function.update files path
        (some ⟨contents, ((files path).map File.mode).getD sys.creationMode⟩)) := by
  simp [EStateM.run, write, hcreate, h]

theorem run_setPermissions_of_error {mode : ℕ} (h : sys.setPermissions = some e) :
    (orRemove sys path (setPermissions sys path mode)).run files = .error e (removeFile sys path files) := by
  simp [EStateM.run, orRemove, setPermissions, h]

theorem run_setPermissions {mode : ℕ} (h : sys.setPermissions = none) :
    (orRemove sys path (setPermissions sys path mode)).run (Function.update files path (some file)) =
      .ok () (Function.update files path (some { file with mode })) := by
  simp [EStateM.run, orRemove, setPermissions, h]

theorem run_rename_of_error (h : sys.rename = some e) :
    (orRemove sys path (rename sys path target)).run files = .error e (removeFile sys path files) := by
  simp [EStateM.run, orRemove, rename, h]

theorem run_rename (h : sys.rename = none) (hne : path ≠ target) :
    (orRemove sys path (rename sys path target)).run (Function.update files path (some file)) =
      .ok () (Function.update (Function.update files path none) target (some file)) := by
  simp [EStateM.run, orRemove, rename, h, Function.update_comm hne]

end FileSystem

open FileSystem

def randomSuffix (crates : Crates) (entropy : Digest 8) : String := crates.hex.encode entropy.val

/-- The directory of a path, which is the current one for a name alone. -/
def Path.dir (path : Path) : Bytes :=
  match path.parent with
  | some dir => if dir.isEmpty then utf8 "." else dir
  | none => utf8 "."

def temporaryName (crates : Crates) (entropy : Digest 8) (fileName : Bytes) : Bytes :=
  utf8 "." ++ Lossy.replaced fileName ++ utf8 ".tmp." ++ utf8 (randomSuffix crates entropy)

/-- The calls that replace a file through a temporary one. -/
def replaceThrough (sys : Syscalls) (tmp target : Location) (contents : Bytes) : FileAction Unit := do
  let mode := FileSystem.mode sys target (← get)
  write sys tmp contents
  orRemove sys tmp (setPermissions sys tmp (mode.getD 0o644))
  orRemove sys tmp (rename sys tmp target)

def writeAtomic (crates : Crates) (entropy : Digest 8) (sys : Syscalls) (path : Path)
    (contents : Bytes) : FileAction Unit :=
  match path.fileName with
  | none => throw ("invalid output path " ++ path.debug)
  | some fileName =>
    replaceThrough sys ⟨path.dir, temporaryName crates entropy fileName⟩ ⟨path.dir, fileName⟩ contents

/-- The name of the temporary file is longer than that of the file. -/
theorem temporaryName_ne (crates : Crates) (entropy : Digest 8) (fileName : Bytes) :
    temporaryName crates entropy fileName ≠ fileName := by
  intro h
  have hlength := congrArg List.length h
  have hreplaced := Lossy.length_le_replaced fileName
  have hdot : (utf8 ".").length = 1 := rfl
  simp only [temporaryName, List.length_append, hdot] at hlength
  omega

/-! ## Failures -/

section

variable {sys : Syscalls} {target tmp : Location} {contents : Bytes} {files : FileSystem} {e : String}

/-- The bits that the temporary file is given. -/
def chosenMode (sys : Syscalls) (target : Location) (files : FileSystem) : ℕ :=
  (FileSystem.mode sys target files).getD 0o644

theorem run_of_create (h : sys.create = some e) :
    (replaceThrough sys tmp target contents).run files = .error e files :=
  run_bind_of_error (run_write_of_create h) _

theorem run_of_write {n : ℕ} (hcreate : sys.create = none) (h : sys.write = some (n, e)) :
    (replaceThrough sys tmp target contents).run files =
      .error e (Function.update files tmp
        (some ⟨contents.take n, ((files tmp).map File.mode).getD sys.creationMode⟩)) :=
  run_bind_of_error (run_write_of_write hcreate h) _

theorem run_of_setPermissions (hcreate : sys.create = none) (hwrite : sys.write = none)
    (h : sys.setPermissions = some e) :
    (replaceThrough sys tmp target contents).run files =
      .error e (removeFile sys tmp (Function.update files tmp
        (some ⟨contents, ((files tmp).map File.mode).getD sys.creationMode⟩))) :=
  (run_bind_of_ok (run_write hcreate hwrite) _).trans
    (run_bind_of_error (run_setPermissions_of_error h) _)

theorem run_of_rename (hcreate : sys.create = none) (hwrite : sys.write = none)
    (hpermissions : sys.setPermissions = none) (h : sys.rename = some e) :
    (replaceThrough sys tmp target contents).run files =
      .error e (removeFile sys tmp (Function.update files tmp
        (some ⟨contents, chosenMode sys target files⟩))) := by
  refine (run_bind_of_ok (run_write hcreate hwrite) _).trans ?_
  refine (run_bind_of_ok (run_setPermissions hpermissions) _).trans ?_
  exact run_rename_of_error h

theorem run_of_none (hcreate : sys.create = none) (hwrite : sys.write = none)
    (hpermissions : sys.setPermissions = none) (h : sys.rename = none) (hne : tmp ≠ target) :
    (replaceThrough sys tmp target contents).run files =
      .ok () (Function.update (Function.update files tmp none) target
        (some ⟨contents, chosenMode sys target files⟩)) := by
  refine (run_bind_of_ok (run_write hcreate hwrite) _).trans ?_
  refine (run_bind_of_ok (run_setPermissions hpermissions) _).trans ?_
  exact run_rename h hne

end

/-! ## Atomicity -/

/-- What replacing a file may come to: nothing if it fails, and otherwise the contents in the file, with
the bits that it had. -/
def Replaces (target : Location) (contents : Bytes) (files : FileSystem) :
    EStateM.Result String FileSystem Unit → Prop
  | .error _ files' => files' = files
  | .ok () files' => files' = Function.update files target
      (some ⟨contents, ((files target).map File.mode).getD 0o644⟩)

/-- The name of the temporary file is free: then all of it must be written, it must be removed after a
failure, and the bits of the target must be known. -/
def UndoesNew (sys : Syscalls) (target : Location) (files : FileSystem) : Prop :=
  match sys.write, sys.setPermissions, sys.rename with
  | some _, _, _ => False
  | none, some _, _ | none, none, some _ => sys.removeFails = false
  | none, none, none => sys.metadataFails = true → ∀ file, files target = some file → file.mode = 0o644

/-- The name of the temporary file is taken: then `file`, which is overwritten, must be what is left. -/
def LeavesSame (sys : Syscalls) (target : Location) (contents : Bytes) (files : FileSystem)
    (file : File) : Prop :=
  match sys.write, sys.setPermissions, sys.rename with
  | some (n, _), _, _ => file.contents = contents.take n
  | none, some _, _ => sys.removeFails = true ∧ file.contents = contents
  | none, none, some _ => sys.removeFails = true ∧ file = ⟨contents, chosenMode sys target files⟩
  | none, none, none => False

def Undoes (sys : Syscalls) (tmp target : Location) (contents : Bytes) (files : FileSystem) : Prop :=
  sys.create ≠ none ∨
    match files tmp with
    | none => UndoesNew sys target files
    | some file => LeavesSame sys target contents files file

section

variable {sys : Syscalls} {target tmp : Location} {contents : Bytes} {files : FileSystem}

theorem update_eq_self_iff {entry : Option File} :
    Function.update files tmp entry = files ↔ files tmp = entry := by
  rw [Function.update_eq_iff]
  exact ⟨fun h => h.1.symm, fun h => ⟨h.symm, fun _ _ => rfl⟩⟩

/-- What is left after the temporary file is removed, or could not be. -/
theorem removeFile_eq_iff {file : File} :
    removeFile sys tmp (Function.update files tmp (some file)) = files ↔
      files tmp = if sys.removeFails then some file else none := by
  unfold removeFile
  split_ifs
  · exact update_eq_self_iff
  · rw [Function.update_idem, update_eq_self_iff]

/-- The bits that are chosen are those of the target unless these cannot be read. -/
theorem chosenMode_eq_iff :
    chosenMode sys target files = ((files target).map File.mode).getD 0o644 ↔
      (sys.metadataFails = true → ∀ file, files target = some file → file.mode = 0o644) := by
  unfold chosenMode FileSystem.mode
  cases files target with
  | none => simp
  | some file =>
    split_ifs with hfails
    · simp [hfails, eq_comm]
    · simp [hfails]

/-- Nothing but the target is changed exactly when what every failure leaves is undone. -/
theorem replaces_iff (hne : tmp ≠ target) :
    Replaces target contents files ((replaceThrough sys tmp target contents).run files) ↔
      Undoes sys tmp target contents files := by
  unfold Undoes
  cases hcreate : sys.create with
  | some e => simp [run_of_create hcreate, Replaces]
  | none =>
    simp only [ne_eq, not_true_eq_false, false_or]
    cases hwrite : sys.write with
    | some stopped =>
      obtain ⟨n, e⟩ := stopped
      rw [run_of_write hcreate hwrite, Replaces, update_eq_self_iff]
      cases hfile : files tmp with
      | none => simp [UndoesNew, hwrite]
      | some file => simp [LeavesSame, hwrite, File.ext_iff]
    | none =>
      cases hpermissions : sys.setPermissions with
      | some e =>
        rw [run_of_setPermissions hcreate hwrite hpermissions, Replaces, removeFile_eq_iff]
        cases hfile : files tmp with
        | none => simp [UndoesNew, hwrite, hpermissions]
        | some file =>
          cases hremove : sys.removeFails <;>
            simp [LeavesSame, hwrite, hpermissions, hremove, File.ext_iff]
      | none =>
        cases hrename : sys.rename with
        | some e =>
          rw [run_of_rename hcreate hwrite hpermissions hrename, Replaces, removeFile_eq_iff]
          cases hfile : files tmp with
          | none => simp [UndoesNew, hwrite, hpermissions, hrename]
          | some file =>
            cases hremove : sys.removeFails <;> simp [LeavesSame, hwrite, hpermissions, hrename, hremove]
        | none =>
          rw [run_of_none hcreate hwrite hpermissions hrename hne, Replaces]
          cases hfile : files tmp with
          | none =>
            have hfree : Function.update files tmp none = files := update_eq_self_iff.mpr hfile
            rw [hfree, (Function.update_injective files target).eq_iff]
            simp [UndoesNew, hwrite, hpermissions, hrename, ← chosenMode_eq_iff]
          | some file =>
            -- the file that had the name is gone
            refine iff_of_false (fun h => ?_) (by simp [LeavesSame, hwrite, hpermissions, hrename])
            have hgone := congrFun h tmp
            simp [Function.update_of_ne hne, hfile] at hgone

end

/-- What replacing a file at a path may come to. -/
def Atomic (path : Path) (contents : Bytes) (files : FileSystem)
    (result : EStateM.Result String FileSystem Unit) : Prop :=
  match path.fileName with
  | some fileName => Replaces ⟨path.dir, fileName⟩ contents files result
  | none => ∃ e, result = .error e files

/-- A file is replaced or nothing is changed exactly when there is no file name, or what every failure
leaves is undone. -/
theorem writeAtomic_atomic_iff (crates : Crates) (entropy : Digest 8) (sys : Syscalls) (path : Path)
    (contents : Bytes) (files : FileSystem) :
    Atomic path contents files ((writeAtomic crates entropy sys path contents).run files) ↔
      ∀ fileName, path.fileName = some fileName →
        Undoes sys ⟨path.dir, temporaryName crates entropy fileName⟩ ⟨path.dir, fileName⟩ contents
          files := by
  unfold Atomic writeAtomic
  cases hname : path.fileName with
  | none =>
    refine iff_of_true ⟨_, rfl⟩ ?_
    rintro _ ⟨⟩
  | some fileName =>
    simp only [Option.some.injEq, forall_eq']
    refine replaces_iff fun h => ?_
    exact temporaryName_ne crates entropy fileName (congrArg Location.name h)

/-! ## A full disk -/

/-- The disk is full after three bytes. -/
def fullDisk : Syscalls where
  creationMode := 0o644
  metadataFails := false
  create := none
  write := some (3, "No space left on device (os error 28)")
  setPermissions := none
  rename := none
  removeFails := false

def certPath : Path where
  parent := some []
  fileName := some (utf8 "cert.pem")
  debug := Text.debug "cert.pem"

def certLocation : Location := ⟨utf8 ".", utf8 "cert.pem"⟩

/-- A directory with one file. -/
def certFiles : FileSystem := Function.update (fun _ => none) certLocation (some ⟨utf8 "old", 0o640⟩)

def noEntropy : Digest 8 := ⟨List.replicate 8 0, by decide⟩

def certTemporary : Location := ⟨utf8 ".", temporaryName (Testca.crates []) noEntropy (utf8 "cert.pem")⟩

/-- The part of the temporary file that was written is left behind. -/
theorem writeAtomic_fullDisk :
    certFiles certTemporary = none ∧
      (writeAtomic (Testca.crates []) noEntropy fullDisk certPath (utf8 "renewed")).run certFiles =
        .error "No space left on device (os error 28)"
          (Function.update certFiles certTemporary (some ⟨utf8 "ren", 0o644⟩)) ∧
      ¬Atomic certPath (utf8 "renewed") certFiles
        ((writeAtomic (Testca.crates []) noEntropy fullDisk certPath (utf8 "renewed")).run certFiles) := by
  have hne : certTemporary ≠ certLocation := fun h =>
    temporaryName_ne _ _ _ (congrArg Location.name h)
  have hfree : certFiles certTemporary = none := Function.update_of_ne hne _ _
  have hrun : (writeAtomic (Testca.crates []) noEntropy fullDisk certPath (utf8 "renewed")).run certFiles =
      .error "No space left on device (os error 28)"
        (Function.update certFiles certTemporary (some ⟨utf8 "ren", 0o644⟩)) := by
    have hwritten := @run_of_write fullDisk certLocation certTemporary (utf8 "renewed") certFiles _ 3 rfl rfl
    rw [hfree] at hwritten
    exact hwritten
  refine ⟨hfree, hrun, ?_⟩
  rw [hrun]
  intro h
  have hgone := congrFun h certTemporary
  simp [hfree] at hgone

end Ayane.Cli
