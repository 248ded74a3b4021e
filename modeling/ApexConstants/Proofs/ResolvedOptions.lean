import ApexConstants.Proofs.ProjectFiles

namespace ApexConstants

theorem Number.Binary64.text_ne_empty (x : Number.Binary64) : x.text ≠ "" := by
  cases x with
  | notANumber => decide
  | infinite negative => cases negative <;> decide
  | finite negative m e =>
    have hpositional : ∀ digits point, positional digits point ≠ [] := by
      intro digits point
      unfold positional
      split <;> simp
    have hscientific : ∀ digits point, scientific digits point ≠ [] := by
      intro digits point
      simp [scientific]
    simp only [text]
    split
    · simp
    · rw [Ne, ← String.toList_inj, String.toList_ofList]
      simp only [String.toList_empty, List.append_eq_nil_iff]
      intro hnil
      obtain ⟨-, hdigits⟩ := hnil
      split at hdigits
      · exact hpositional _ _ hdigits
      · exact hscientific _ _ hdigits

theorem Json.display_ne_empty {v : Json} (h : v.isTruthy = true) : v.display ≠ "" := by
  cases v with
  | null => cases h
  | bool b =>
    cases b with
    | false => cases h
    | true => decide
  | int n =>
    cases n with
    | ofNat n => exact Nat.repr_ne_empty
    | negSucc n => simp [Json.display, Json.quoted, toString, Int.repr]
  | float x => exact x.text_ne_empty
  | str s => simpa [isTruthy, display] using h
  | arr items => simp [display, quoted]
  | obj members => simp [display, quoted]

/-- The names of an empty text are empty. -/
theorem eq_empty_of_intercalate {names : List String} (h : String.intercalate "/" names = "")
    {name : String} (hname : name ∈ names) : name = "" := by
  cases names with
  | nil => cases hname
  | cons first rest =>
    have hchars := congrArg String.toList h
    rw [String.toList_intercalate, List.map_cons] at hchars
    cases rest with
    | nil =>
      rw [List.mem_singleton.mp hname]
      simpa [List.intercalate] using hchars
    | cons second rest =>
      rw [List.intercalate_cons_of_ne_nil (by simp)] at hchars
      simp at hchars

theorem Path.text_ne_empty {p : Path} {name : String} (hname : name ∈ p.names) (hne : name ≠ "") :
    p.text ≠ "" := by
  intro hempty
  unfold text at hempty
  split at hempty
  · exact absurd hempty (by decide)
  · obtain ⟨-, hnames⟩ := String.append_eq_empty_iff.mp hempty
    exact hne (eq_empty_of_intercalate hnames hname)

namespace Project

def classesFolder (p : Project) (folder : String) : Path :=
  p.folder.join ((Path.ofText folder).join ⟨.here, ["main", "default", "classes"]⟩)

theorem outputFolderIn_eq_ok (p : Project) {config : Json.Members} {path : Path}
    (h : p.outputFolderIn config = .ok path) :
    ∃ folder, p.packageFolderIn config = .ok (.str folder) ∧ path = p.classesFolder folder := by
  obtain ⟨v, hpackage, h⟩ := bind_eq_ok.mp h
  cases v <;> cases h
  exact ⟨_, hpackage, rfl⟩

theorem classesFolder_text_ne_empty (p : Project) (folder : String) :
    (p.classesFolder folder).text ≠ "" := by
  have hname : "classes" ∈ (p.classesFolder folder).names := by
    simp only [classesFolder, Path.join, beq_self_eq_true, if_true]
    split <;> simp
  exact Path.text_ne_empty hname (by decide)

theorem apiVersionIn_eq_ok_iff (p : Project) {config : Json.Members} {text : String} :
    p.apiVersionIn config = .ok text ↔
      ∃ version, Json.get? config "sourceApiVersion" = some version ∧ version.isTruthy = true ∧
        text = version.display := by
  unfold apiVersionIn
  cases Json.get? config "sourceApiVersion" with
  | none => simp
  | some version =>
    cases htruthy : version.isTruthy with
    | false => simp [htruthy]
    | true =>
      simp only [if_true, Except.ok.injEq, Option.some.injEq, exists_eq_left', htruthy, true_and]
      exact eq_comm

/-- What is settled on for a value that may be given. -/
inductive Settles (folder : Path) (t : Tree) (q : ConfigQuestion) (given : Json) : Json → Prop
  | given (h : given.isTruthy = true) : Settles folder t q given given
  | answer {config : Json.Members} {v : Json} (h : given.isTruthy = false)
      (object : Project.object? { folder } t = some config)
      (answer : q.answerIn folder config = .ok v) : Settles folder t q given v

/-- What is held, if anything, is the object in the file. -/
def UpToDate (p : Project) (t : Tree) : Prop := p.config = none ∨ p.config = p.object? t

variable {p : Project} {t : Tree} {config : Json.Members} {given v : Json}

theorem answer_of_object (h : p.UpToDate t) (hobject : p.object? t = some config)
    (q : ConfigQuestion) :
    p.answer t q.question = ⟨q.answerIn p.folder config, { p with config := some config }, []⟩ := by
  rw [answer_eq]
  cases hconfig : p.config with
  | none => exact ask_of_object hconfig hobject _
  | some held =>
    have hheld : held = config := by
      rcases h with hnone | hsame
      · simp [hnone] at hconfig
      · simpa [hsame, hobject] using hconfig.symm
    subst hheld
    rw [ask_of_kept hconfig, ← hconfig]

theorem answer_of_none (h : p.UpToDate t) (hobject : p.object? t = none) (q : ConfigQuestion) :
    ∃ fault log, p.answer t q.question = ⟨.error fault, p, log⟩ ∧
      ((∃ cause, fault = .config cause) ↔ p.WithinBounds t) := by
  have hfresh : p.config = none := by
    rcases h with hnone | hsame
    · exact hnone
    · exact hsame.trans hobject
  rw [answer_eq]
  exact ask_of_none hfresh hobject _

theorem withinBounds_of_object (h : p.object? t = some config) : p.WithinBounds t := by
  refine ⟨⟨true, isProject_of_object h⟩, fun content hread => ?_⟩
  cases hover : jsonOverrun content with
  | none => rfl
  | some fault => simp [object?_of_overrun hread hover] at h

theorem UpToDate.orAnswer (h : p.UpToDate t) (given : Json) (q : ConfigQuestion) :
    (p.orAnswer given (·.answer t q.question)).project.UpToDate t := by
  unfold Project.orAnswer
  split
  · exact h
  · dsimp only
    cases hobject : p.object? t with
    | none =>
      obtain ⟨fault, log, hanswer, -⟩ := answer_of_none h hobject q
      rw [hanswer]
      exact h
    | some config =>
      rw [answer_of_object h hobject]
      exact .inr hobject.symm

theorem orAnswer_eq_ok_iff (h : p.UpToDate t) (q : ConfigQuestion) :
    (p.orAnswer given (·.answer t q.question)).outcome = .ok v ↔
      Settles p.folder t q given v := by
  unfold orAnswer
  cases hgiven : given.isTruthy with
  | true =>
    constructor
    · intro hok
      cases hok
      exact .given hgiven
    · intro hsettles
      cases hsettles with
      | given _ => rfl
      | answer hnot _ _ => simp [hgiven] at hnot
  | false =>
    dsimp only [Bool.false_eq_true, if_false]
    constructor
    · intro hok
      rw [if_neg (by decide)] at hok
      cases hobject : p.object? t with
      | none =>
        obtain ⟨fault, log, hanswer, -⟩ := answer_of_none h hobject q
        rw [hanswer] at hok
        cases hok
      | some config =>
        rw [answer_of_object h hobject] at hok
        exact .answer hgiven hobject hok
    · intro hsettles
      rw [if_neg (by decide)]
      cases hsettles with
      | given htrue => simp [hgiven] at htrue
      | answer _ hobject hanswer =>
        rw [answer_of_object h hobject]
        exact hanswer

theorem orAnswer_of_given (h : given.isTruthy = true) (question : ProjectQuestion) :
    p.orAnswer given (·.answer t question) = ⟨.ok given, p, []⟩ := by
  rw [orAnswer, if_pos h]

/-- A value is given, or the configuration is blamed within bounds and not beyond them. -/
theorem orAnswer_blames_iff (h : p.UpToDate t) {q : ConfigQuestion}
    (hfit : ∀ config, p.object? t = some config → BlamesConfig (q.answerIn p.folder config)) :
    BlamesConfig (p.orAnswer given (·.answer t q.question)).outcome ↔
      given.isTruthy = true ∨ p.WithinBounds t := by
  cases hgiven : given.isTruthy with
  | true =>
    rw [orAnswer_of_given hgiven]
    exact iff_of_true (blamesConfig_ok given) (.inl rfl)
  | false =>
    rw [orAnswer, hgiven, if_neg Bool.false_ne_true]
    simp only [Bool.false_eq_true, false_or]
    cases hobject : p.object? t with
    | none =>
      obtain ⟨fault, log, hanswer, hblames⟩ := answer_of_none h hobject q
      rw [hanswer, ← hblames]
      exact blamesConfig_error_iff
    | some config =>
      rw [answer_of_object h hobject]
      exact iff_of_true (hfit config hobject) (withinBounds_of_object hobject)

/-- A reply that settles on a value in a project's folder. -/
structure Answers (folder : Path) (t : Tree) (q : ConfigQuestion) (given : Json)
    (reply : ProjectReply Json) : Prop where
  settles : ∀ v, reply.outcome = .ok v ↔ Settles folder t q given v
  blames : (∀ config, Project.object? { folder } t = some config →
      BlamesConfig (q.answerIn folder config)) →
    (BlamesConfig reply.outcome ↔
      given.isTruthy = true ∨ Project.WithinBounds { folder } t)

theorem UpToDate.answers (h : p.UpToDate t) (q : ConfigQuestion) (given : Json) :
    Answers p.folder t q given (p.orAnswer given (·.answer t q.question)) := by
  have hbounds : p.WithinBounds t ↔ Project.WithinBounds { folder := p.folder } t :=
    ⟨fun hp => ⟨hp.path, hp.content⟩, fun hp => ⟨hp.path, hp.content⟩⟩
  refine ⟨fun v => orAnswer_eq_ok_iff h q, fun hfit => ?_⟩
  rw [← hbounds]
  exact orAnswer_blames_iff h hfit

end Project

namespace Options
variable {o resolved : Options} {t : Tree} {dir : String}

section
variable (hdir : o.value .projectDir = .str dir)
include hdir

end

end Options

namespace Project
variable {folder : Path} {t : Tree} {given v : Json}

/-- What is settled on for the folder and for the version is not empty. -/
theorem Settles.isTruthy {q : ConfigQuestion} (hq : q = .outputFolder ∨ q = .apiVersion)
    (h : Settles folder t q given v) : v.isTruthy = true := by
  cases h with
  | given h => exact h
  | answer _ _ hanswer =>
    rcases hq with rfl | rfl
    · obtain ⟨path, hpath, rfl⟩ := map_eq_ok.mp hanswer
      obtain ⟨name, -, rfl⟩ := outputFolderIn_eq_ok _ hpath
      simpa [Json.isTruthy] using classesFolder_text_ne_empty _ name
    · obtain ⟨text, htext, rfl⟩ := map_eq_ok.mp hanswer
      obtain ⟨version, -, htruthy, rfl⟩ := (apiVersionIn_eq_ok_iff _).mp htext
      simpa [Json.isTruthy] using Json.display_ne_empty htruthy

end Project

namespace Options
variable {o resolved : Options} {t : Tree} {dir : String} (hdir : o.value .projectDir = .str dir)
include hdir

end Options

end ApexConstants
