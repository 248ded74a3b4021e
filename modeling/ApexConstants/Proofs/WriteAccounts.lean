import ApexConstants.Proofs.KindPlans

namespace ApexConstants

variable {store fault : Type}

structure Attempt where
  path : Path
  content : String
  written : Bool

def writtenPaths (attempts : List Attempt) : List Path :=
  (attempts.filter (·.written)).map (·.path)

def Writer.watched (writer : Writer store fault) : Writer (store × List Attempt) fault :=
  fun (s, attempts) path content =>
    let (after, outcome) := writer s path content
    ((after, attempts ++ [⟨path, content, outcome.isOk⟩]), outcome)

inductive HandsOver : List (Path × String) → List Attempt → Except fault Unit → Prop
  | done : HandsOver [] [] (.ok ())
  | wrote {path : Path} {content : String} {files : List (Path × String)} {attempts : List Attempt}
      {outcome : Except fault Unit} (rest : HandsOver files attempts outcome) :
      HandsOver ((path, content) :: files) (⟨path, content, true⟩ :: attempts) outcome
  | refused (path : Path) (content : String) (files : List (Path × String)) (e : fault) :
      HandsOver ((path, content) :: files) [⟨path, content, false⟩] (.error e)

namespace HandsOver
variable {files more : List (Path × String)} {attempts attempts' : List Attempt}
  {outcome : Except fault Unit} {e : fault}

theorem append (h : HandsOver files attempts (.ok () : Except fault Unit))
    (h' : HandsOver more attempts' outcome) :
    HandsOver (files ++ more) (attempts ++ attempts') outcome := by
  generalize hok : (.ok () : Except fault Unit) = ended at h
  induction h with
  | done => exact h'
  | wrote rest ih => exact .wrote (ih hok)
  | refused path content files e => cases hok

theorem append_refused (h : HandsOver files attempts (.error e : Except fault Unit))
    (more : List (Path × String)) :
    HandsOver (files ++ more) attempts (.error e : Except fault Unit) := by
  generalize herror : (.error e : Except fault Unit) = ended at h ⊢
  induction h with
  | done => cases herror
  | wrote rest ih => exact .wrote (ih herror)
  | refused path content files e => exact .refused path content (files ++ more) e

/-- When none is refused, every file is handed over and written. -/
theorem paths_of_ok (h : HandsOver files attempts (.ok () : Except fault Unit)) :
    attempts.map (·.path) = files.map Prod.fst ∧ writtenPaths attempts = files.map Prod.fst := by
  generalize hok : (.ok () : Except fault Unit) = ended at h
  induction h with
  | done => simp [writtenPaths]
  | wrote rest ih => simpa [writtenPaths] using ih hok
  | refused path content files e => cases hok

theorem length_lt (h : HandsOver files attempts (.error e : Except fault Unit)) :
    (writtenPaths attempts).length < files.length := by
  generalize herror : (.error e : Except fault Unit) = ended at h
  induction h with
  | done => cases herror
  | wrote rest ih => simpa [writtenPaths] using ih herror
  | refused path content files e => simp [writtenPaths]

end HandsOver

theorem writeFiles_watched (writer : Writer store fault) (s : store) (before : List Attempt)
    (files : List (Path × String)) :
    ∃ attempts, writeFiles writer.watched (s, before) files =
        (((writeFiles writer s files).1, before ++ attempts), (writeFiles writer s files).2) ∧
      HandsOver files attempts (writeFiles writer s files).2 := by
  induction files generalizing s before with
  | nil => exact ⟨[], by simp [writeFiles], .done⟩
  | cons f files ih =>
    obtain ⟨path, content⟩ := f
    cases hwrite : writer s path content with
    | mk after outcome =>
      cases outcome with
      | error e =>
        refine ⟨[⟨path, content, false⟩], ?_, ?_⟩
        · simp [writeFiles, Writer.watched, hwrite, Except.isOk, Except.toBool]
        · simp only [writeFiles, hwrite]
          exact .refused path content files e
      | ok _ =>
        obtain ⟨attempts, hrest, hhands⟩ := ih after (before ++ [⟨path, content, true⟩])
        refine ⟨⟨path, content, true⟩ :: attempts, ?_, ?_⟩
        · simp [writeFiles, Writer.watched, hwrite, Except.isOk, Except.toBool, hrest]
        · simp only [writeFiles, hwrite]
          exact .wrote hhands

/-- The paths less a last one that has no partner. -/
def wholePairs (paths : List Path) : List Path := paths.take (2 * (paths.length / 2))

theorem wholePairs_pair (p q : Path) (paths : List Path) :
    wholePairs (p :: q :: paths) = p :: q :: wholePairs paths := by
  have hlength : 2 * ((paths.length + 2) / 2) = 2 * (paths.length / 2) + 1 + 1 := by omega
  rw [wholePairs, List.length_cons, List.length_cons, hlength, List.take_succ_cons,
    List.take_succ_cons, wholePairs]

theorem wholePairs_of_short {paths : List Path} (h : paths.length < 2) : wholePairs paths = [] := by
  have hnone : paths.length / 2 = 0 := by omega
  simp [wholePairs, hnone]

theorem wholePairs_eq_iff (paths : List Path) : wholePairs paths = paths ↔ 2 ∣ paths.length := by
  constructor
  · intro h
    have hlength := congrArg List.length h
    rw [wholePairs, List.length_take] at hlength
    omega
  · intro h
    apply List.take_of_length_le
    omega

/-- What is noted of classes that are written are the pairs of which both files were. -/
theorem writePairs_watched (writer : Writer store fault) (folder : Path) (s : store)
    (before : List Attempt) (classes : List GeneratedClass) :
    ∃ attempts, writePairs writer.watched folder (s, before) classes =
        ⟨((writePairs writer folder s classes).store, before ++ attempts),
          (writePairs writer folder s classes).paths,
          (writePairs writer folder s classes).outcome⟩ ∧
      HandsOver (classes.flatMap (·.files folder)) attempts
        (writePairs writer folder s classes).outcome ∧
      (writePairs writer folder s classes).paths = wholePairs (writtenPaths attempts) := by
  induction classes generalizing s before with
  | nil => exact ⟨[], by simp [writePairs], .done, rfl⟩
  | cons c classes ih =>
    obtain ⟨first, hfirst, hhands⟩ := writeFiles_watched writer s before (c.files folder)
    rw [List.flatMap_cons]
    simp only [writePairs, hfirst]
    cases hpair : writeFiles writer s (c.files folder) with
    | mk after outcome =>
      rw [hpair] at hhands
      cases outcome with
      | error e =>
        have hshort : (writtenPaths first).length < 2 := hhands.length_lt
        exact ⟨first, rfl, hhands.append_refused _, (wholePairs_of_short hshort).symm⟩
      | ok _ =>
        obtain ⟨attempts, hrest, hhands', hpaths⟩ := ih after (before ++ first)
        refine ⟨first ++ attempts, ?_, hhands.append hhands', ?_⟩
        · simp [hrest, List.append_assoc]
        · have hboth : writtenPaths (first ++ attempts) =
              (folder.child c.fileName) :: (folder.child c.metaFileName) ::
                writtenPaths attempts := by
            have hcompleted := hhands.paths_of_ok.2
            simp only [writtenPaths, List.filter_append, List.map_append] at hcompleted ⊢
            simp [hcompleted, GeneratedClass.files]
          rw [hboth, wholePairs_pair, ← hpaths]
          rfl

/-- How writing a result is accounted for, `attempts` being what the writer was handed. -/
structure WriteAccount (r : Result) (writer : Writer store fault) (folder : Path) (s : store)
    (attempts : List Attempt) : Prop where
  /-- These are the attempts of the writer, which is not disturbed by being watched. -/
  watched : r.write writer.watched folder (s, []) =
    ((r.write writer folder s).1, ((r.write writer folder s).2.1, attempts),
      (r.write writer folder s).2.2)
  /-- It is handed the pair of each class in turn, up to the first file that it refuses. -/
  inTurn : HandsOver (r.files folder) attempts ((r.write writer folder s).2.2.map fun _ => ())
  /-- The paths handed over are returned behind those that were noted before, so that they are what
  is returned exactly when there were none. -/
  returned : ∀ paths, (r.write writer folder s).2.2 = .ok paths →
    paths = r.written ++ attempts.map (·.path) ∧
      (paths = attempts.map (·.path) ↔ r.written = [])
  /-- Paths are noted for the pairs of which both files were written. -/
  noted : (r.write writer folder s).1.written = r.written ++ wholePairs (writtenPaths attempts)
  /-- These are all that were written unless the second file of a pair was refused. -/
  complete : (r.write writer folder s).1.written = r.written ++ writtenPaths attempts ↔
    2 ∣ (writtenPaths attempts).length
  /-- Nothing else in the result changes. -/
  kept : { (r.write writer folder s).1 with written := r.written } = r

/-- Every writing of a result is accounted for by pairs, behind what was noted before. -/
theorem write_accounts (r : Result) (writer : Writer store fault) (folder : Path) (s : store) :
    ∃ attempts, WriteAccount r writer folder s attempts := by
  obtain ⟨attempts, hwatched, hhands, hpaths⟩ :=
    writePairs_watched writer folder s [] r.classes
  rw [List.nil_append] at hwatched
  refine ⟨attempts, ?_, ?_, ?_, ?_, ?_, rfl⟩
  · simp [Result.write, hwatched]
  · simp only [Result.write]
    cases houtcome : (writePairs writer folder s r.classes).outcome with
    | error e =>
      rw [houtcome] at hhands
      exact hhands
    | ok _ =>
      rw [houtcome] at hhands
      exact hhands
  · intro paths hok
    obtain ⟨_, houtcome, rfl⟩ := map_eq_ok.mp hok
    rw [houtcome] at hhands
    have hhanded := hhands.paths_of_ok.1
    dsimp only
    rw [writePairs_paths houtcome, hhanded]
    exact ⟨rfl, List.append_left_eq_self⟩
  · simp [Result.write, hpaths]
  · simp only [Result.write, hpaths, List.append_cancel_left_eq]
    exact wholePairs_eq_iff _

def rewritten : Result where
  classes := [⟨.str "A", "body", "stamp", none⟩]
  written := [⟨.here, ["old", "A.cls"]⟩, ⟨.here, ["old", "A.cls-meta.xml"]⟩]

def classesOnly : Writer (List (Path × String)) Failure := fun written path content =>
  if path.extension == ".xml" then (written, .error (.file .isFolder))
  else recorder written path content

/-- The paths of an earlier write are returned with those of a later one, and a class file whose
description is refused is written and not noted. -/
theorem write_misaccounts :
    (∃ paths, (rewritten.write recorder ⟨.here, ["out"]⟩ []).2.2 = .ok paths ∧
      paths.map Path.text = ["old/A.cls", "old/A.cls-meta.xml", "out/A.cls", "out/A.cls-meta.xml"] ∧
      (rewritten.write recorder ⟨.here, ["out"]⟩ []).2.1.map (fun f => f.1.text) =
        ["out/A.cls", "out/A.cls-meta.xml"]) ∧
    ((rewritten.write classesOnly ⟨.here, ["out"]⟩ []).2.1.map (fun f => f.1.text) =
        ["out/A.cls"] ∧
      (rewritten.write classesOnly ⟨.here, ["out"]⟩ []).1.written.map Path.text =
        ["old/A.cls", "old/A.cls-meta.xml"]) := by
  exact ⟨⟨_, rfl, rfl, rfl⟩, rfl, rfl⟩

end ApexConstants
