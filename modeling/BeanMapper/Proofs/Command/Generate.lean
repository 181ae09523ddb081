import BeanMapper.Command.Run
import BeanMapper.Proofs.FileSystem.Writing
import BeanMapper.Proofs.Insertion.Splicing
import BeanMapper.Proofs.Location.Resolution

/-!
# Making a snippet — what the command does to the files

    The command opens the file of a location, finds out what to generate, cuts
    the text at the cursor and puts the snippet between the halves, and only
    then writes.

    * `ends_generate` lists how the command can end: each step that fails ends
      it with the files that it started with.
    * `opened_eq_ok` says what an opened file has to do with the location.
    * `generate_edits_one_file_or_none` puts them together: one file is edited
      or none. -/

namespace BeanMapper.Command

open FileSystem (SameBut)

variable {α β : Type} {fs after : FileSystem} {argument : String} {sourceRoot : Option String}
  {write json : Bool} {o : Opened} {a : Analysis} {i : Insertion} {t : Trouble}

/-! ## Steps of an activity -/

/-- A step that only finds something out ends the activity or goes on with the same files. -/
theorem on_find (x : Except Trouble α) (next : α → Activity β) (fs : FileSystem) :
    Activity.on (do next (← x)) fs
      = match x with
        | .error t => (.error t, fs)
        | .ok a => (next a).on fs := by
  cases x <;> rfl

theorem on_leave (x : Except Trouble FileSystem) (next : Activity β) (fs : FileSystem) :
    Activity.on (do leave x; next) fs
      = match x with
        | .error t => (.error t, fs)
        | .ok after => next.on after := by
  cases x <;> rfl

theorem on_get (next : FileSystem → Activity β) (fs : FileSystem) :
    Activity.on (do next (← get)) fs = (next fs).on fs := rfl

/-- **Showing a snippet** finds something out and leaves the files as they are. -/
theorem on_showSnippet (o : Opened) (json : Bool) (fs : FileSystem) :
    (showSnippet o json).on fs
      = match o.analysis with
        | .error t => (.error t, fs)
        | .ok a =>
            (.ok (if json then jsonText (Schema.ofGeneratedText a.generated)
              else a.generated.text ++ "\n"), fs) := by
  rw [showSnippet, on_find]
  cases o.analysis <;> rfl

/-- **Writing a snippet** finds out what to write, and then writes it. -/
theorem on_writeSnippet (o : Opened) (json : Bool) (fs : FileSystem) :
    (writeSnippet o json).on fs
      = match o.analysis with
        | .error t => (.error t, fs)
        | .ok a =>
            match o.insertion a.generated with
            | .error t => (.error t, fs)
            | .ok i =>
                match fs.write o.location.path i.text with
                | .error e => (.error (.writing o.location.path e), fs)
                | .ok after =>
                    (.ok (if json then jsonText (Schema.ofGeneratedText a.generated)
                      else Report.inserted a.generated o.location.path
                        ((Position.fromOffset? i.text i.caret).getD ⟨0, 0⟩)), after) := by
  rw [writeSnippet, on_find]
  cases o.analysis with
  | error t => rfl
  | ok a =>
      dsimp only
      rw [on_find]
      cases o.insertion a.generated with
      | error t => rfl
      | ok i =>
          dsimp only
          rw [on_get, on_leave]
          cases fs.write o.location.path i.text <;> rfl

/-- How the command that makes a snippet can end, step by step. -/
inductive Ends (fs : FileSystem) (argument : String) (sourceRoot : Option String) :
    Bool → Except Trouble String → FileSystem → Prop where
  /-- The file is not opened. -/
  | unopened {write : Bool} {t : Trouble} (hopened : opened fs argument sourceRoot = .error t) :
      Ends fs argument sourceRoot write (.error t) fs
  /-- There is nothing to generate. -/
  | unmapped {write : Bool} {o : Opened} {t : Trouble}
      (hopened : opened fs argument sourceRoot = .ok o) (hanalysis : o.analysis = .error t) :
      Ends fs argument sourceRoot write (.error t) fs
  /-- The snippet is shown. -/
  | shown {o : Opened} {a : Analysis} {output : String}
      (hopened : opened fs argument sourceRoot = .ok o) (hanalysis : o.analysis = .ok a) :
      Ends fs argument sourceRoot false (.ok output) fs
  /-- The snippet does not fit into the text. -/
  | unfit {o : Opened} {a : Analysis} {t : Trouble}
      (hopened : opened fs argument sourceRoot = .ok o) (hanalysis : o.analysis = .ok a)
      (hinsertion : o.insertion a.generated = .error t) :
      Ends fs argument sourceRoot true (.error t) fs
  /-- The file is not written. -/
  | unwritten {o : Opened} {a : Analysis} {i : Insertion} {e : FileError}
      (hopened : opened fs argument sourceRoot = .ok o) (hanalysis : o.analysis = .ok a)
      (hinsertion : o.insertion a.generated = .ok i)
      (hwrite : fs.write o.location.path i.text = .error e) :
      Ends fs argument sourceRoot true (.error (.writing o.location.path e)) fs
  /-- The file is written. -/
  | written {o : Opened} {a : Analysis} {i : Insertion} {after : FileSystem} {output : String}
      (hopened : opened fs argument sourceRoot = .ok o) (hanalysis : o.analysis = .ok a)
      (hinsertion : o.insertion a.generated = .ok i)
      (hwrite : fs.write o.location.path i.text = .ok after) :
      Ends fs argument sourceRoot true (.ok output) after

/-- **How the command that makes a snippet ends**: nothing but the last step changes files. -/
theorem ends_generate (fs : FileSystem) (argument : String) (sourceRoot : Option String)
    (write json : Bool) :
    Ends fs argument sourceRoot write ((answer (.generate argument sourceRoot write json)).on fs).1
      ((answer (.generate argument sourceRoot write json)).on fs).2 := by
  rw [answer, on_get, on_find]
  -- one case for each step that may fail, in the order in which they are taken
  cases hopened : opened fs argument sourceRoot with
  | error t => exact .unopened hopened
  | ok o =>
      cases write with
      | false =>
          simp only [Bool.false_eq_true, if_false, on_showSnippet]
          cases hanalysis : o.analysis with
          | error t => exact .unmapped hopened hanalysis
          | ok a => exact .shown hopened hanalysis
      | true =>
          simp only [if_true, on_writeSnippet]
          cases hanalysis : o.analysis with
          | error t => exact .unmapped hopened hanalysis
          | ok a =>
              dsimp only
              cases hinsertion : o.insertion a.generated with
              | error t => exact .unfit hopened hanalysis hinsertion
              | ok i =>
                  dsimp only
                  cases hwrite : fs.write o.location.path i.text with
                  | error e => exact .unwritten hopened hanalysis hinsertion hwrite
                  | ok after => exact .written hopened hanalysis hinsertion hwrite

/-! ## Opening a file at a cursor -/

theorem exists_of_bind {ε : Type} {x : Except ε α} {next : α → Except ε β} {b : β}
    (h : x >>= next = .ok b) : ∃ a, x = .ok a ∧ next a = .ok b := by
  cases x with
  | error e => exact nomatch h
  | ok a => exact ⟨a, rfl, h⟩

theorem mapError_eq_ok_iff {ε ε' : Type} {x : Except ε α} {f : ε → ε'} {a : α} :
    x.mapError f = .ok a ↔ x = .ok a := by
  cases x <;> simp [Except.mapError]

/-- Files that are added leave the text of a project as it is; by induction on them. -/
theorem source_foldl_addParsed (files : List ParsedFile) (p : Project) :
    (files.foldl Project.addParsed p).source = p.source := by
  induction files generalizing p with
  | nil => rfl
  | cons file files ih => rw [List.foldl_cons, ih, Project.addParsed]

/-- The text of a project that is loaded is that of its file. -/
theorem source_of_load {config : Config} {file : String} {p : Project}
    (h : Project.load fs config file sourceRoot = .ok p) : fs.read file = .ok p.source := by
  rw [Project.load] at h
  cases hread : fs.read file with
  | error e =>
      rw [hread] at h
      exact nomatch h
  | ok source =>
      rw [hread] at h
      cases h
      rw [Project.ofFiles, source_foldl_addParsed]
      rfl

/-- **What is opened**: the argument is a location, its path leads to a text file, and the cursor is
    where the location stands in that text. -/
theorem opened_eq_ok (h : opened fs argument sourceRoot = .ok o) :
    Location.parse argument = .ok o.location
      ∧ (∃ place, fs.find o.location.path = .ok (.file place (.text o.project.source)))
      ∧ o.location.resolve o.project.source = .ok o.offset := by
  rw [opened] at h
  obtain ⟨location, hparse, h⟩ := exists_of_bind h
  split at h
  · obtain ⟨_, hthrow, -⟩ := exists_of_bind h
    exact nomatch hthrow
  · obtain ⟨config, -, h⟩ := exists_of_bind h
    obtain ⟨project, hproject, h⟩ := exists_of_bind h
    obtain ⟨offset, hoffset, h⟩ := exists_of_bind h
    cases h
    rw [mapError_eq_ok_iff] at hparse hproject hoffset
    exact ⟨hparse, FileSystem.read_eq_ok_iff.mp (source_of_load hproject), hoffset⟩

theorem of_bind_eq_error {ε : Type} {x : Except ε α} {next : α → Except ε β} {e : ε}
    (h : x >>= next = .error e) : x = .error e ∨ ∃ a, x = .ok a ∧ next a = .error e := by
  cases x with
  | error e' =>
      cases h
      exact .inl rfl
  | ok a => exact .inr ⟨a, rfl, h⟩

theorem exists_of_mapError {ε ε' : Type} {x : Except ε α} {f : ε → ε'} {e : ε'}
    (h : x.mapError f = .error e) : ∃ e', e = f e' := by
  cases x with
  | error e' => exact ⟨e', (Except.error.inj h).symm⟩
  | ok a => exact nomatch h

/-- What keeps a file from being opened has nothing to do with the snippet. -/
theorem opened_ne_other {f : Failure} : opened fs argument sourceRoot ≠ .error (.other f) := by
  intro h
  rw [opened] at h
  rcases of_bind_eq_error h with h | ⟨location, -, h⟩
  · obtain ⟨_, he⟩ := exists_of_mapError h
    exact nomatch he
  split at h
  · rcases of_bind_eq_error h with h | ⟨_, hthrow, -⟩
    · exact nomatch h
    · exact nomatch hthrow
  rcases of_bind_eq_error h with h | ⟨config, -, h⟩
  · obtain ⟨_, he⟩ := exists_of_mapError h
    exact nomatch he
  rcases of_bind_eq_error h with h | ⟨project, -, h⟩
  · obtain ⟨_, he⟩ := exists_of_mapError h
    exact nomatch he
  rcases of_bind_eq_error h with h | ⟨offset, -, h⟩
  · obtain ⟨_, he⟩ := exists_of_mapError h
    exact nomatch he
  · exact nomatch h

/-! ## The file after the command -/

/-- One file has bytes inserted at a location, and nothing else has changed. -/
structure EditsOneFile (fs after : FileSystem) (location : Location) (place : Place) (old : String)
    (i : Insertion) : Prop where
  /-- The path of the location leads to the file, which holds a text. -/
  found : fs.find location.path = .ok (.file place (.text old))
  /-- The inserted bytes start where the location stands in that text. -/
  start : location.resolve old = .ok i.start
  /-- Afterwards the file holds the text with the inserted bytes. -/
  written : after.contentAt? place = some (.text i.text)
  /-- Without them this is what the file held before. -/
  restored : Text.without? i.start i.stop i.text.toList = some old.toList
  /-- All other files and directories are as they were. -/
  sameBut : SameBut place fs after

/-- Writing the text of an insertion at the cursor edits the file of the cursor. -/
theorem editsOneFile_of_write {g : GeneratedText} (hopened : opened fs argument sourceRoot = .ok o)
    (hi : o.insertion g = .ok i) (hwrite : fs.write o.location.path i.text = .ok after) :
    ∃ place, EditsOneFile fs after o.location place o.project.source i := by
  obtain ⟨-, ⟨place, hfind⟩, hoffset⟩ := opened_eq_ok hopened
  have hinsert := mapError_eq_ok_iff.mp hi
  obtain ⟨hsame, hwritten⟩ := FileSystem.sameBut_of_write hfind hwrite
  refine ⟨place, hfind, ?_, hwritten, Insertion.without?_of_insert hinsert, hsame⟩
  rw [Insertion.start_of_insert hinsert, hoffset]

/-- **The command that makes a snippet edits one file or none.**  Where it fails, at whatever step, or
    is not told to write, the files are as they were.  Where it writes, the file of the location has
    the snippet for the cursor in it at the location, and nothing else has changed. -/
theorem generate_edits_one_file_or_none (fs : FileSystem) (argument : String)
    (sourceRoot : Option String) (write json : Bool) (result : Except Trouble String)
    (after : FileSystem)
    (h : (answer (.generate argument sourceRoot write json)).on fs = (result, after)) :
    ((∃ t, result = .error t) ∨ write = false → after = fs)
    ∧ (∀ output, result = .ok output → write = true →
        ∃ o a i place, opened fs argument sourceRoot = .ok o ∧ o.analysis = .ok a
          ∧ o.insertion a.generated = .ok i ∧ Location.parse argument = .ok o.location
          ∧ EditsOneFile fs after o.location place o.project.source i) := by
  have hends := ends_generate fs argument sourceRoot write json
  rw [h] at hends
  cases hends with
  | unopened | unmapped | unfit | unwritten => exact ⟨fun _ => rfl, fun _ hok => nomatch hok⟩
  | shown => exact ⟨fun _ => rfl, fun _ _ hwrite => nomatch hwrite⟩
  | written hopened hanalysis hi hwrite =>
      refine ⟨fun hor => ?_, fun _ _ _ => ?_⟩
      · rcases hor with ⟨t, ht⟩ | hfalse
        · exact nomatch ht
        · exact nomatch hfalse
      · obtain ⟨place, hedits⟩ := editsOneFile_of_write hopened hi hwrite
        exact ⟨_, _, _, place, hopened, hanalysis, hi, (opened_eq_ok hopened).1, hedits⟩

/-- A file with a method to fill in, and one with the type that the method returns. -/
def twoFiles : FileSystem where
  files := [(["w", "A.java"], .text "class A\x7bint x;B m()\x7b\r\n\r\n\x7d\x7d"),
    (["w", "lib", "B.java"], .text "class B\x7bvoid setX(int x)\x7b\x7d\x7d")]
  workingDirectory := ["w"]

/-- The snippet goes onto the blank line of the method, and the file of the returned type stays as it
    is. -/
theorem generate_edits_file_beside_another :
    ∃ output after,
      (answer (.generate "A.java:1" (some "lib/B.java") true false)).on twoFiles
          = (.ok output, after)
        ∧ after.contentAt? ["w", "A.java"] = some (.text ("class A\x7bint x;B m()\x7b\r\n"
            ++ "var result = new B();\nresult.setX(x);\nreturn result;\r\n\x7d\x7d"))
        ∧ ∃ o a i place, opened twoFiles "A.java:1" (some "lib/B.java") = .ok o
            ∧ o.analysis = .ok a ∧ o.insertion a.generated = .ok i
            ∧ Location.parse "A.java:1" = .ok o.location
            ∧ EditsOneFile twoFiles after o.location place o.project.source i := by
  obtain ⟨hok, hwritten⟩ :
      (((answer (.generate "A.java:1" (some "lib/B.java") true false)).on twoFiles).1.toOption).isSome
        = true
      ∧ ((answer (.generate "A.java:1" (some "lib/B.java") true false)).on twoFiles).2.contentAt?
          ["w", "A.java"] = some (.text ("class A\x7bint x;B m()\x7b\r\n"
            ++ "var result = new B();\nresult.setX(x);\nreturn result;\r\n\x7d\x7d")) := by
    decide +kernel
  obtain ⟨output, houtput⟩ := Option.isSome_iff_exists.mp hok
  generalize hrun :
    (answer (.generate "A.java:1" (some "lib/B.java") true false)).on twoFiles = run at *
  obtain ⟨result, after⟩ := run
  obtain rfl : result = .ok output := by
    cases result with
    | error t => exact nomatch houtput
    | ok _ => rw [Option.some.inj houtput]
  exact ⟨output, after, rfl, hwritten,
    (generate_edits_one_file_or_none _ _ _ _ _ _ _ hrun).2 output rfl rfl⟩

end BeanMapper.Command
