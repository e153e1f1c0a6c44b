import Mathlib.Data.List.DropRight
import Walkthrough.Outside.Scripted
import Walkthrough.Page.Screenshot
import Walkthrough.Proofs.Disk.Child
import Walkthrough.Proofs.Session.Run
import Walkthrough.Proofs.Text.Lines

/-!
# Where screenshots land

Whatever a screenshot is called, the name of its file is a run of word characters, points and dashes
without a dash at either end (`Walkthrough.Screenshot.isFileName_fileName`), and such a name is kept
as it is. With its ending it has no slash and is more than points, so that the file lies directly in
the run's directory: by its path, and on every disk on which the path leads anywhere
(`Walkthrough.Screenshot.place_liesIn`, `Walkthrough.Play.takeScreenshot_lands`).
-/

namespace Walkthrough

open Text

namespace Screenshot

/-- A run of word characters, points and dashes that neither starts nor ends with a dash. -/
structure IsFileName (name : String) : Prop where
  some : name.toList ≠ []
  kept : ∀ c ∈ name.toList, isWord c = true ∨ c = '.' ∨ c = '-'
  front : '-' ∉ name.toList.head?
  back : '-' ∉ name.toList.getLast?

section Names

variable {s : List Char} {c : Char}

theorem isKept_iff : isKept c = true ↔ isWord c = true ∨ c = '.' ∨ c = '-' := by
  rw [isKept, Bool.or_eq_true, Bool.or_eq_true, beq_iff_eq, beq_iff_eq, or_assoc]

theorem isKept_of_mem_dashed {inRun : Bool} (among : c ∈ dashed inRun s) : isKept c = true := by
  induction s generalizing inRun with
  | nil => cases among
  | cons first rest ih =>
      rw [dashed] at among
      by_cases kept : isKept first = true
      · rw [if_pos kept] at among
        rcases List.mem_cons.mp among with rfl | later
        · exact kept
        · exact ih later
      · rw [if_neg kept] at among
        cases inRun with
        | true => exact ih among
        | false =>
            rcases List.mem_cons.mp among with rfl | later
            · rfl
            · exact ih later

theorem dashed_eq_self (kept : ∀ c ∈ s, isKept c = true) : dashed false s = s := by
  induction s with
  | nil => rfl
  | cons first rest ih =>
      obtain ⟨keeps, later⟩ := List.forall_mem_cons.mp kept
      rw [dashed, if_pos keeps, ih later]

theorem trimDashes_eq (s : List Char) :
    trimDashes s = (s.dropWhile (· == '-')).rdropWhile (· == '-') := rfl

theorem trimDashes_sublist (s : List Char) : (trimDashes s).Sublist s :=
  (List.rdropWhile_prefix _ _).sublist.trans (List.dropWhile_sublist _)

theorem head?_trimDashes : '-' ∉ (trimDashes s).head? := by
  intro first
  obtain ⟨rest, whole⟩ := List.rdropWhile_prefix (· == '-') (s.dropWhile (· == '-'))
  have dropped : '-' ∈ (s.dropWhile (· == '-')).head? := by
    obtain ⟨later, same⟩ := List.head?_eq_some_iff.mp first
    rw [← whole, ← trimDashes_eq, same]
    rfl
  exact absurd (head?_dropWhile '-' dropped) (by decide)

theorem getLast?_trimDashes : '-' ∉ (trimDashes s).getLast? := by
  intro last
  exact absurd (getLast?_rdropWhile '-' last) (by decide)

theorem trimDashes_eq_self (front : '-' ∉ s.head?) (back : '-' ∉ s.getLast?) :
    trimDashes s = s := by
  have starts : s.dropWhile (· == '-') = s := by
    apply dropWhile_eq_self
    intro c first
    exact beq_eq_false_iff_ne.mpr fun same => front (same ▸ first)
  have ends : s.reverse.dropWhile (· == '-') = s.reverse := by
    apply dropWhile_eq_self
    intro c last
    rw [List.head?_reverse] at last
    exact beq_eq_false_iff_ne.mpr fun same => back (same ▸ last)
  rw [trimDashes, starts, ends, List.reverse_reverse]

/-- Whatever a screenshot is called, its file has the name of a file. -/
theorem isFileName_fileName (name : String) : IsFileName (fileName name) := by
  rw [fileName]
  by_cases none : (trimDashes (dashed false name.toList)).isEmpty = true
  · rw [if_pos none]
    have kept : "screenshot".toList.all isKept = true := by decide
    exact ⟨by decide, fun c among => isKept_iff.mp (List.all_eq_true.mp kept c among),
      by decide, by decide⟩
  · rw [if_neg none]
    constructor <;> rw [String.toList_ofList]
    · exact fun empty => none (List.isEmpty_iff.mpr empty)
    · intro c among
      exact isKept_iff.mp (isKept_of_mem_dashed ((trimDashes_sublist _).mem among))
    · exact head?_trimDashes
    · exact getLast?_trimDashes

/-- What has the name of a file is called so. -/
theorem fileName_eq_self {name : String} (isName : IsFileName name) : fileName name = name := by
  have kept : dashed false name.toList = name.toList :=
    dashed_eq_self fun c among => isKept_iff.mpr (isName.kept c among)
  rw [fileName, kept, trimDashes_eq_self isName.front isName.back, if_neg, String.ofList_toList]
  rw [List.isEmpty_iff]
  exact isName.some

theorem fileName_fileName (name : String) : fileName (fileName name) = fileName name :=
  fileName_eq_self (isFileName_fileName name)

end Names

/-- The name of a file with its ending is one part of a path. -/
theorem IsFileName.isPart {name : String} (isName : IsFileName name) :
    Path.IsPart (name ++ ".png") := by
  have long : 5 ≤ (name ++ ".png").toList.length := by
    have some := List.length_pos_iff.mpr isName.some
    rw [String.toList_append, List.length_append]
    exact Nat.add_le_add some (Nat.le_refl 4)
  have differs {short : String} (few : short.toList.length < 5) : name ++ ".png" ≠ short := by
    rintro rfl
    exact Nat.not_le.mpr few long
  refine ⟨?_, differs (by decide), differs (by decide), differs (by decide)⟩
  rw [String.toList_append, List.mem_append, not_or]
  refine ⟨fun slash => ?_, by decide⟩
  have kept := isKept_iff.mpr (isName.kept '/' slash)
  exact absurd kept (by decide)

/-- A screenshot lies directly in the directory, by the name of its file with the ending. -/
theorem place_liesIn (directory : Path) (name : String) :
    (place directory name).LiesIn directory (fileName name ++ ".png") :=
  directory.child_liesIn (isFileName_fileName name).isPart

end Screenshot

section Taking

variable {σ : Type} [Outside σ]

/-- How taking a screenshot ends that belongs at a path in a directory: the directory cannot be made
and nothing is asked of the page, or the page is asked once for a screenshot at the path, and the
path is returned unless the page fails. -/
inductive Session.Shoots (session : Session σ) (directory path : Path) :
    Except Fault (Option Path) × Session σ → Prop
  | refused {fault : DiskFault} :
      session.disk.makeDirectory directory = .error fault →
      session.Shoots directory path (.error (.disk fault), session)
  | taken {after : Session σ} :
      session.disk.makeDirectory directory = .ok after.disk →
      (Outside.reply (.screenshot path) session.outside).1 = .ok () →
      after.calls = session.calls ++ [.screenshot path] →
      session.Shoots directory path (.ok (some path), after)
  | failed {mishap : Mishap} {after : Session σ} :
      session.disk.makeDirectory directory = .ok after.disk →
      (Outside.reply (.screenshot path) session.outside).1 = .error mishap →
      after.calls = session.calls ++ [.screenshot path] →
      session.Shoots directory path (.error (.outside mishap), after)

namespace Play

variable {session : Session σ} {directory : Path}

omit [Outside σ] in
theorem makeDirectory_of_error {fault : DiskFault}
    (refuses : session.disk.makeDirectory directory = .error fault) :
    makeDirectory directory session = (.error (.disk fault), session) := by
  rw [makeDirectory, bind_apply_of_ok (get_apply session), refuses]
  rfl

omit [Outside σ] in
theorem makeDirectory_of_ok {disk : Disk}
    (makes : session.disk.makeDirectory directory = .ok disk) :
    makeDirectory directory session = (.ok (), { session with disk }) := by
  rw [makeDirectory, bind_apply_of_ok (get_apply session), makes]
  rfl

theorem takeScreenshot_shoots (configured : (session.page.getD {}).screenshotDir = some directory)
    (name : String) :
    session.Shoots directory (Screenshot.place directory name) (takeScreenshot name session) := by
  have settings : pageSettings session = (.ok (session.page.getD {}), session) := rfl
  rw [takeScreenshot, bind_apply_of_ok settings]
  simp only [configured]
  cases makes : session.disk.makeDirectory directory with
  | error fault =>
      rw [bind_apply_of_error (makeDirectory_of_error makes)]
      exact .refused makes
  | ok disk =>
      -- The page is asked in the world as it was, since only the disk has changed.
      have asked := ask_apply (.screenshot (Screenshot.place directory name)) { session with disk }
      rw [bind_apply_of_ok (makeDirectory_of_ok makes)]
      cases answer : (Outside.reply (.screenshot (Screenshot.place directory name))
          session.outside).1 with
      | error mishap =>
          rw [answer] at asked
          rw [bind_apply_of_error asked]
          exact .failed makes answer rfl
      | ok done =>
          rw [answer] at asked
          rw [bind_apply_of_ok asked]
          exact .taken makes answer rfl

/-- **No name leads out of the directory.** Whatever a screenshot is called, the page is asked for
it at a path directly in the run's directory, and that path is returned, unless the directory cannot
be made or the page fails. The name of the file is a run of word characters, points and dashes
without a dash at either end, followed by its ending; a name that was made so is not changed any
more. -/
theorem takeScreenshot_lands (configured : (session.page.getD {}).screenshotDir = some directory)
    (name : String) :
    Screenshot.IsFileName (Screenshot.fileName name) ∧
      Screenshot.fileName (Screenshot.fileName name) = Screenshot.fileName name ∧
      (Screenshot.place directory name).LiesIn directory (Screenshot.fileName name ++ ".png") ∧
      session.Shoots directory (Screenshot.place directory name) (takeScreenshot name session) :=
  ⟨Screenshot.isFileName_fileName name, Screenshot.fileName_fileName name,
    Screenshot.place_liesIn directory name, takeScreenshot_shoots configured name⟩

/-- A run of a world without answers that keeps its screenshots in a directory. -/
def pictured : Session Scripted where
  outside := {}
  page := some { screenshotDir := some ⟨"", ["shots"]⟩ }

/-- A name that seems to lead out of the directory. -/
theorem takeScreenshot_lands_passwd :
    (pictured.page.getD {}).screenshotDir = some ⟨"", ["shots"]⟩ ∧
      Screenshot.fileName "../../etc/passwd" = "..-..-etc-passwd" ∧
      (Screenshot.place ⟨"", ["shots"]⟩ "../../etc/passwd").LiesIn ⟨"", ["shots"]⟩
        "..-..-etc-passwd.png" ∧
      pictured.Shoots ⟨"", ["shots"]⟩ (Screenshot.place ⟨"", ["shots"]⟩ "../../etc/passwd")
        (takeScreenshot "../../etc/passwd" pictured) := by
  have configured : (pictured.page.getD {}).screenshotDir = some ⟨"", ["shots"]⟩ := rfl
  obtain ⟨-, -, lies, shoots⟩ := takeScreenshot_lands configured "../../etc/passwd"
  exact ⟨configured, by decide, lies, shoots⟩

end Play

end Taking

end Walkthrough
