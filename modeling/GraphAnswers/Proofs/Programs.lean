import GraphAnswers.Program
/-!
# How parts of programs go

A part of a program that comes to its end gives a value, leaves the files in some state and reports
failures.  All this depends on nothing but the files before it (`Program.Does`), so it is told of a
whole program from its parts (`Program.Does.bind`).
-/
namespace GraphAnswers.Program

variable {α β : Type}

/-- Carries out a program, or a part of one. -/
def perform (p : Program α) (s : Session) : Except Ending α × Session :=
  StateT.run (ExceptT.run p) s

/-- The failures reported. -/
def Session.errors (s : Session) : List String :=
  (s.records.filter fun r => r.1 == .error).map Prod.snd

theorem perform_bind (p : Program α) (f : α → Program β) (s : Session) :
    perform (p >>= f) s =
      match perform p s with
      | (.ok a, s') => perform (f a) s'
      | (.error ending, s') => (.error ending, s') := by
  unfold perform ExceptT.run StateT.run
  simp only [bind, ExceptT.bind, ExceptT.mk, StateT.bind, ExceptT.bindCont]
  rcases p s with ⟨_ | _, _⟩ <;> rfl

/-- **What a part of a program does** where these files are: it ends with a value and other files,
and reports failures. -/
def Does (p : Program α) (t : FileTree) (a : α) (t' : FileTree) (errors : List String) : Prop :=
  ∀ s : Session, s.files = t →
    ∃ s', perform p s = (.ok a, s') ∧ s'.files = t' ∧ s'.errors = s.errors ++ errors

section Parts

variable {t t' t'' : FileTree} {a : α} {b : β} {errors errors' : List String}

theorem does_pure (t : FileTree) (a : α) : Does (pure a) t a t [] := by
  rintro s rfl
  exact ⟨s, rfl, rfl, (List.append_nil _).symm⟩

/-- One part after another. -/
theorem Does.bind {p : Program α} {f : α → Program β} (hp : Does p t a t' errors)
    (hf : Does (f a) t' b t'' errors') : Does (p >>= f) t b t'' (errors ++ errors') := by
  intro s hs
  obtain ⟨s', hperform, hfiles, herrors⟩ := hp s hs
  obtain ⟨s'', hperform', hfiles', herrors'⟩ := hf s' hfiles
  refine ⟨s'', ?_, hfiles', by rw [herrors', herrors, List.append_assoc]⟩
  rw [perform_bind, hperform]
  exact hperform'

/-- A part that reports nothing, and another one after it. -/
theorem Does.andThen {p : Program α} {f : α → Program β} (hp : Does p t a t' [])
    (hf : Does (f a) t' b t'' errors) : Does (p >>= f) t b t'' errors := hp.bind hf

theorem does_record_error (t : FileTree) (text : String) :
    Does (record .error text) t () t [text] := by
  rintro s rfl
  refine ⟨_, rfl, rfl, ?_⟩
  simp [Session.errors]

theorem does_record {level : Level} (h : (level == .error) = false) (t : FileTree) (text : String) :
    Does (record level text) t () t [] := by
  rintro s rfl
  refine ⟨_, rfl, rfl, ?_⟩
  simp [Session.errors, h]

theorem does_inform (t : FileTree) (text : String) : Does (inform text) t () t [] :=
  does_record rfl t text

theorem does_files (t : FileTree) : Does files t t t [] := by
  rintro s rfl
  exact ⟨s, rfl, rfl, (List.append_nil _).symm⟩

theorem does_attempt {path : String} {operation : Database.Operation α}
    {outcome : Except Failure α} (h : t.onIndex path operation = (outcome, t')) :
    Does (attempt path operation) t outcome t' [] := by
  rintro s rfl
  refine ⟨{ s with files := t' }, ?_, rfl, (List.append_nil _).symm⟩
  show (Except.ok (s.files.onIndex path operation).1,
    { s with files := (s.files.onIndex path operation).2 }) = _
  rw [h]

theorem does_carryOut {path : String} {operation : Database.Operation α}
    (h : t.onIndex path operation = (.ok a, t')) : Does (carryOut path operation) t a t' [] :=
  (does_attempt h).andThen (does_pure t' a)

end Parts

/-! ### However a part ends

A program may end before its end.  A property of its sessions that each of its parts keeps, it keeps
as a whole, however it ends. -/

/-- Whether a property of sessions outlasts a part of a program. -/
def Preserves (P : Session → Prop) (p : Program α) : Prop := ∀ s, P s → P (perform p s).2

/-- Whether a property of sessions is lost neither by what is printed nor by one more record. -/
structure IsQuiet (P : Session → Prop) : Prop where
  print : ∀ s output, P s → P { s with output }
  record : ∀ s entry, P s → P { s with records := s.records ++ [entry] }

section Preserving

variable {P : Session → Prop}

theorem preserves_pure (a : α) : Preserves P (pure a) := fun _ h => h

theorem preserves_throw (ending : Ending) : Preserves P (throw ending : Program α) := fun _ h => h

theorem preserves_files : Preserves P files := fun _ h => h

theorem Preserves.bind {p : Program α} {f : α → Program β} (hp : Preserves P p)
    (hf : ∀ a, Preserves P (f a)) : Preserves P (p >>= f) := by
  intro s hs
  have hfirst := hp s hs
  rw [perform_bind]
  rcases hrun : perform p s with ⟨outcome, s'⟩
  rw [hrun] at hfirst
  cases outcome with
  | ok a => exact hf a s' hfirst
  | error ending => exact hfirst

/-- Whether a part of a program leads from one property of its sessions to another one, however it
ends. -/
def Leads (P Q : Session → Prop) (p : Program α) : Prop := ∀ s, P s → Q (perform p s).2

/-- A property is kept until the part that leads on from it. -/
theorem Preserves.leads {Q : Session → Prop} {p : Program α} {f : α → Program β}
    (hp : Preserves P p) (hPQ : ∀ s, P s → Q s) (hf : ∀ a, Leads P Q (f a)) :
    Leads P Q (p >>= f) := by
  intro s hs
  have hfirst := hp s hs
  rw [perform_bind]
  rcases hrun : perform p s with ⟨outcome, s'⟩
  rw [hrun] at hfirst
  cases outcome with
  | ok a => exact hf a s' hfirst
  | error ending => exact hPQ s' hfirst

theorem Preserves.of_perform {p : Program α} (hp : Preserves P p) {s s' : Session}
    {outcome : Except Ending α} (hrun : perform p s = (outcome, s')) (hs : P s) : P s' := by
  have hkept := hp s hs
  rwa [hrun] at hkept

theorem preserves_expect (outcome : Except Failure α) : Preserves P (expect outcome) := by
  cases outcome with
  | ok a => exact preserves_pure a
  | error failure => exact preserves_throw _

theorem preserves_record (hquiet : IsQuiet P) (level : Level) (text : String) :
    Preserves P (record level text) := fun s h => hquiet.record s _ h

theorem preserves_inform (hquiet : IsQuiet P) (text : String) : Preserves P (inform text) :=
  preserves_record hquiet .info text

theorem preserves_print (hquiet : IsQuiet P) (line : String) : Preserves P (print line) :=
  fun s h => hquiet.print s _ h

theorem preserves_forM_print (hquiet : IsQuiet P) (lines : List String) :
    Preserves P (lines.forM print) := by
  induction lines with
  | nil => exact preserves_pure ()
  | cons line lines ih => exact (preserves_print hquiet line).bind fun _ => ih

/-- Work on an index file keeps what its outcome on the files keeps. -/
theorem preserves_attempt {path : String} {operation : Database.Operation α}
    (h : ∀ s, P s → P { s with files := (s.files.onIndex path operation).2 }) :
    Preserves P (attempt path operation) := h

theorem preserves_carryOut {path : String} {operation : Database.Operation α}
    (h : ∀ s, P s → P { s with files := (s.files.onIndex path operation).2 }) :
    Preserves P (carryOut path operation) := (preserves_attempt h).bind preserves_expect

theorem preserves_settings (call : Invocation) : Preserves P (settings call) := by
  unfold settings
  refine preserves_files.bind fun t => ?_
  split
  · exact preserves_throw _
  · dsimp only
    split
    · exact preserves_pure _
    all_goals exact preserves_throw _

theorem preserves_indexPath (settings : Settings) (name : String) :
    Preserves P (indexPath settings name) := by
  unfold indexPath
  split
  · exact preserves_pure _
  · exact preserves_throw _

end Preserving

theorem isQuiet_files (P : FileTree → Prop) : IsQuiet fun s => P s.files where
  print _ _ h := h
  record _ _ h := h

/-- What was reported stays reported. -/
theorem isQuiet_reported : IsQuiet fun s => s.errors ≠ [] where
  print _ _ h := h
  record s entry h := by
    have happend : Session.errors { s with records := s.records ++ [entry] } =
        s.errors ++ ([entry].filter fun r => r.1 == .error).map Prod.snd := by
      unfold Session.errors
      rw [List.filter_append, List.map_append]
    rw [happend]
    exact List.append_ne_nil_of_left_ne_nil h _

/-! ### Parts that came to their end -/

/-- **A program in two parts comes to its end through both.** -/
theorem perform_bind_ok_iff {p : Program α} {f : α → Program β} {s s' : Session} {b : β} :
    perform (p >>= f) s = (.ok b, s') ↔
      ∃ a s₁, perform p s = (.ok a, s₁) ∧ perform (f a) s₁ = (.ok b, s') := by
  rw [perform_bind]
  rcases perform p s with ⟨outcome, s₁⟩
  cases outcome with
  | ok a =>
    constructor
    · exact fun h => ⟨a, s₁, rfl, h⟩
    · rintro ⟨a', s', heq, h⟩
      cases heq
      exact h
  | error ending =>
    constructor
    · intro h
      cases h
    · rintro ⟨a', s', heq, _⟩
      cases heq

section Ended

variable {s s' : Session} {a : α}

theorem of_perform_expect {outcome : Except Failure α}
    (h : perform (expect outcome) s = (.ok a, s')) : outcome = .ok a ∧ s = s' := by
  cases outcome with
  | ok b =>
    cases h
    exact ⟨rfl, rfl⟩
  | error failure => cases h

theorem of_perform_files {t : FileTree} (h : perform files s = (.ok t, s')) :
    t = s.files ∧ s = s' := by
  have hfiles : perform files s = (.ok s.files, s) := rfl
  obtain ⟨ht, hs⟩ := Prod.mk.inj (hfiles.symm.trans h)
  exact ⟨(Except.ok.inj ht).symm, hs⟩

theorem of_perform_record {level : Level} {text : String} {u : Unit}
    (h : perform (record level text) s = (.ok u, s')) :
    s'.files = s.files ∧ s'.records = s.records ++ [(level, text)] := by
  cases h
  exact ⟨rfl, rfl⟩

theorem of_perform_inform {text : String} {u : Unit}
    (h : perform (inform text) s = (.ok u, s')) : s'.files = s.files := (of_perform_record h).1

theorem of_perform_attempt {path : String} {operation : Database.Operation α}
    {outcome : Except Failure α} (h : perform (attempt path operation) s = (.ok outcome, s')) :
    outcome = (s.files.onIndex path operation).1 ∧
      s' = { s with files := (s.files.onIndex path operation).2 } := by
  cases h
  exact ⟨rfl, rfl⟩

/-- Work on an index file that does not end the program has succeeded. -/
theorem of_perform_carryOut {path : String} {operation : Database.Operation α}
    (h : perform (carryOut path operation) s = (.ok a, s')) :
    ∃ t, s.files.onIndex path operation = (.ok a, t) ∧ s' = { s with files := t } := by
  obtain ⟨outcome, s₁, hattempt, hexpect⟩ := perform_bind_ok_iff.mp h
  obtain ⟨rfl, rfl⟩ := of_perform_expect hexpect
  obtain ⟨houtcome, rfl⟩ := of_perform_attempt hattempt
  exact ⟨_, Prod.ext houtcome.symm rfl, rfl⟩

end Ended

/-! ### What is printed -/

/-- The settings are told by the files. -/
theorem settings_of_files {call : Invocation} {t : FileTree} {s : Session} (hfiles : s.files = t) :
    (perform (settings call) s).1 = (perform (settings call) { files := t }).1 := by
  subst hfiles
  have hget (s : Session) : perform files s = (.ok s.files, s) := rfl
  unfold settings
  rw [perform_bind, perform_bind, hget, hget]
  dsimp only
  split
  · rfl
  · split <;> rfl

/-- Whether a part of a program comes to its end where these files are, leaves them as they are, and
has printed a text by then. -/
def Prints (p : Program α) (t : FileTree) (a : α) (text : String) : Prop :=
  ∀ s : Session, s.files = t →
    ∃ s', perform p s = (.ok a, s') ∧ s'.files = t ∧ s'.output = s.output ++ text

/-- Whether a text is all that a part of a program prints where these files are, however it ends. -/
def PrintsInAll (p : Program α) (t : FileTree) (text : String) : Prop :=
  ∀ s : Session, s.files = t → (perform p s).2.output = s.output ++ text

section Printing

variable {t : FileTree} {a : α} {b : β} {text text' : String}

theorem prints_pure (t : FileTree) (a : α) : Prints (pure a) t a "" := by
  rintro s rfl
  exact ⟨s, rfl, rfl, String.append_empty.symm⟩

/-- One part after another. -/
theorem Prints.bind {p : Program α} {f : α → Program β} (hp : Prints p t a text)
    (hf : Prints (f a) t b text') : Prints (p >>= f) t b (text ++ text') := by
  intro s hs
  obtain ⟨s', hperform, hfiles, houtput⟩ := hp s hs
  obtain ⟨s'', hperform', hfiles', houtput'⟩ := hf s' hfiles
  refine ⟨s'', ?_, hfiles', by rw [houtput', houtput, String.append_assoc]⟩
  rw [perform_bind, hperform]
  exact hperform'

/-- A part that prints nothing, and another one after it. -/
theorem Prints.andThen {p : Program α} {f : α → Program β} (hp : Prints p t a "")
    (hf : Prints (f a) t b text) : Prints (p >>= f) t b text := by
  have h := hp.bind hf
  rwa [String.empty_append] at h

theorem prints_print (t : FileTree) (line : String) : Prints (print line) t () (line ++ "\n") := by
  rintro s rfl
  exact ⟨_, rfl, rfl, String.append_assoc⟩

theorem prints_record (t : FileTree) (level : Level) (text : String) :
    Prints (record level text) t () "" := by
  rintro s rfl
  exact ⟨_, rfl, rfl, String.append_empty.symm⟩

theorem prints_files (t : FileTree) : Prints files t t "" := by
  rintro s rfl
  exact ⟨s, rfl, rfl, String.append_empty.symm⟩

theorem prints_settings {call : Invocation} {found : Settings}
    (h : (perform (settings call) { files := t }).1 = .ok found) :
    Prints (settings call) t found "" := by
  intro s hs
  rw [← settings_of_files hs] at h
  have hsame : (perform (settings call) s).2 = s :=
    preserves_settings (P := fun s' => s' = s) call s rfl
  exact ⟨s, Prod.ext h hsame, hs, String.append_empty.symm⟩

theorem prints_indexPath {settings : Settings} {name path : String}
    (h : settings.indexPath name = .ok path) (t : FileTree) :
    Prints (indexPath settings name) t path "" := by
  unfold indexPath
  rw [h]
  exact prints_pure t path

theorem Prints.inAll {p : Program α} (h : Prints p t a text) : PrintsInAll p t text := by
  intro s hs
  obtain ⟨s', hperform, _, houtput⟩ := h s hs
  rw [hperform]
  exact houtput

theorem Prints.bindInAll {p : Program α} {f : α → Program β} (hp : Prints p t a text)
    (hf : PrintsInAll (f a) t text') : PrintsInAll (p >>= f) t (text ++ text') := by
  intro s hs
  obtain ⟨s', hperform, hfiles, houtput⟩ := hp s hs
  rw [perform_bind, hperform]
  exact (hf s' hfiles).trans (by rw [houtput, String.append_assoc])

theorem Prints.andThenInAll {p : Program α} {f : α → Program β} (hp : Prints p t a "")
    (hf : PrintsInAll (f a) t text) : PrintsInAll (p >>= f) t text := by
  have h := hp.bindInAll hf
  rwa [String.empty_append] at h

/-- A part that prints a text, and another one after it that prints nothing. -/
theorem Prints.bindLastInAll {p : Program α} {f : α → Program β} (hp : Prints p t a text)
    (hf : PrintsInAll (f a) t "") : PrintsInAll (p >>= f) t text := by
  have h := hp.bindInAll hf
  rwa [String.append_empty] at h

theorem printsInAll_fail (t : FileTree) (message : String) :
    PrintsInAll (fail message : Program α) t "" :=
  fun _ _ => String.append_empty.symm

/-- What a call of a program prints. -/
theorem PrintsInAll.output_run {p : Program Unit} (h : PrintsInAll p t text) (log : Log)
    (source : String) : (run p log source t).output = text := by
  have houtput := h { files := t } rfl
  rwa [String.empty_append] at houtput

end Printing

end GraphAnswers.Program
