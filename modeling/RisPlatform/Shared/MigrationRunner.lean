import Mathlib.Data.List.Sort
import RisPlatform.Common.Histories
import RisPlatform.Common.Table
import RisPlatform.Common.Utf16
import RisPlatform.Db

/-!
# `migrations/run.ts`: the migration runner

A run lists the SQL files, reads once which of them `schema_migrations` names, and takes the others one
after the other, each in a transaction that ends with the insertion of its name. The name is unique, and
that is all that keeps two runs apart.

For any number of runs, of which each may fail at any statement, the schema is always the one that the
first so many pending files make of it, in their order (`migrated_in_order`), and a run that ends well has
left none of them out (`migrated_completely`). A file with a `COMMIT` of its own escapes the transaction, so
neither holds of it.
-/

namespace Ris.MigrationRunner

open Relational Concurrent Utf16

variable {σ : Type}

/-! ## Files and rows -/

/-- What the text of a file does to a schema `σ`. -/
inductive Script (σ : Type)
  /-- It leaves the transaction it is in open. -/
  | plain (sql : σ → Except RisError σ)
  /-- It ends with a `COMMIT`: what it did stays, whatever becomes of its name. -/
  | committing (sql : σ → Except RisError σ)

def Script.sql : Script σ → σ → Except RisError σ
  | .plain sql => sql
  | .committing sql => sql

def Script.isPlain : Script σ → Bool
  | .plain _ => true
  | .committing _ => false

/-- An entry of the directory. -/
structure MigrationFile (σ : Type) where
  filename : Text
  script : Script σ

/-- The directory: no two entries have one name. -/
abbrev Directory (σ : Type) : Type := Table (MigrationFile.filename (σ := σ))

/-- A row of `schema_migrations`. -/
structure SchemaMigration where
  filename : Text
  appliedAt : ℤ := 0
  deriving DecidableEq

/-- The database: the schema proper and `schema_migrations`, which may not be there yet. -/
structure Database (σ : Type) where
  schema : σ
  schemaMigrations : Option (Table SchemaMigration.filename) := none

/-- The recorded names, oldest first. -/
def applied (r : Database σ) : List Text :=
  r.schemaMigrations.elim [] fun T => T.rows.map SchemaMigration.filename

/-- `readdirSync(migrationsDir).filter((f) => f.endsWith('.sql')).sort()` -/
def sqlFiles (dir : Directory σ) : List (MigrationFile σ) :=
  (dir.rows.filter fun f => (units ".sql").isSuffixOf f.filename).insertionSort
    fun f g => f.filename ≤ g.filename

/-! ## The runner -/

/-- The acts of a run. -/
inductive MigrationAct
  | tableCreated
  | appliedRead (names : List Text)
  /-- A file and its name, in one transaction. -/
  | migrated (filename : Text)
  /-- A file that committed itself. -/
  | executed (filename : Text)
  /-- The name of such a file. -/
  | recorded (filename : Text)
  /-- The line `All migrations applied successfully`. -/
  | succeeded
  deriving DecidableEq

abbrev MigrationTx (σ : Type) : Type → Type := Db.Tx (Database σ)

abbrev MigrationCall (σ : Type) : Type → Type := Db.Call (Database σ) MigrationAct

/-- `CREATE TABLE IF NOT EXISTS schema_migrations` -/
def createTable : MigrationTx σ Unit :=
  Db.write fun r => { r with schemaMigrations := some (r.schemaMigrations.getD .empty) }

/-- `client.query(sql)` -/
def execute (script : Script σ) : MigrationTx σ Unit := do
  let schema ← Db.read Database.schema
  let schema' ← monadLift (script.sql schema)
  Db.write fun r => { r with schema := schema' }

/-- `INSERT INTO schema_migrations (filename) VALUES ($1)` -/
def insertName (filename : Text) : MigrationTx σ Unit := do
  let now ← Db.now
  match ← Db.read fun r => r.schemaMigrations.bind fun T => T.insert? ⟨filename, now⟩ with
  | none => Txn.abort (.runtime "duplicate key value violates unique constraint \"schema_migrations_filename_key\"")
  | some T => Db.write fun r => { r with schemaMigrations := some T }

/-- `BEGIN`, the file, its name and `COMMIT`. -/
def applyFile (file : MigrationFile σ) : MigrationCall σ Unit :=
  match file.script with
  | .plain _ =>
    Db.transaction (do execute file.script; insertName file.filename) fun _ => .migrated file.filename
  | .committing _ => do
    Db.transaction (execute file.script) fun _ => .executed file.filename
    Db.transaction (insertName file.filename) fun _ => .recorded file.filename

/-- One round of the loop. -/
def applyUnless (appliedSet : List Text) (file : MigrationFile σ) : MigrationCall σ Unit :=
  if file.filename ∈ appliedSet then pure () else applyFile file

/-- `for (const file of files)` -/
def applyFiles (appliedSet : List Text) : List (MigrationFile σ) → MigrationCall σ Unit
  | [] => pure ()
  | file :: files => do
    applyUnless appliedSet file
    applyFiles appliedSet files

def runMigrations (dir : Directory σ) : MigrationCall σ Unit := do
  Db.transaction createTable fun _ => .tableCreated
  let appliedSet ← Db.see applied .appliedRead
  applyFiles appliedSet (sqlFiles dir)
  Db.transaction (pure ()) fun _ => .succeeded

/-- Every call is a run. -/
def program (dir : Directory σ) : Unit → MigrationCall σ Unit := fun _ => runMigrations dir

/-! ## Effects -/

/-- The call has read the name, or recorded it. -/
def Known (l : Db.Deeds MigrationAct) (filename : Text) : Prop :=
  (∃ names, some (.own (.appliedRead names)) ∈ l ∧ filename ∈ names) ∨
    some (.own (.migrated filename)) ∈ l ∨ some (.own (.recorded filename)) ∈ l

/-- The file is next for the call: it has not read its name, and knows the names of those before it. -/
structure Next (dir : Directory σ) (l : Db.Deeds MigrationAct) (file : MigrationFile σ) : Prop where
  before : ∃ before after, sqlFiles dir = before ++ file :: after ∧ ∀ g ∈ before, Known l g.filename
  unread : ∃ names, some (.own (.appliedRead names)) ∈ l ∧ file.filename ∉ names

/-- What an act does to the database. -/
inductive Effect (dir : Directory σ) (l : Db.Deeds MigrationAct) (r : Database σ) :
    MigrationAct → Database σ → Prop
  | tableCreated :
      Effect dir l r .tableCreated { r with schemaMigrations := some (r.schemaMigrations.getD .empty) }
  | appliedRead : Effect dir l r (.appliedRead (applied r)) r
  | migrated (file : MigrationFile σ) (hnext : Next dir l file) (hplain : file.script.isPlain = true)
      {r' : Database σ} (hsql : file.script.sql r.schema = .ok r'.schema)
      (hfresh : file.filename ∉ applied r) (happlied : applied r' = applied r ++ [file.filename]) :
      Effect dir l r (.migrated file.filename) r'
  | committing (e : MigrationAct) (file : MigrationFile σ) (hnext : Next dir l file)
      (hplain : file.script.isPlain = false) (r' : Database σ) : Effect dir l r e r'
  | succeeded (hall : ∀ file ∈ sqlFiles dir, Known l file.filename) : Effect dir l r .succeeded r

section Commit

variable {dir : Directory σ} {i : Input} {d d' : Db (Database σ)} {u : Unit}
  {l l' : Db.Deeds MigrationAct}

theorem Known.mono {filename : Text} (h : Known l filename) (hl : l <:+ l') : Known l' filename := by
  rcases h with ⟨names, hread, hmem⟩ | hmigrated | hrecorded
  · exact Or.inl ⟨names, hl.subset hread, hmem⟩
  · exact Or.inr (Or.inl (hl.subset hmigrated))
  · exact Or.inr (Or.inr (hl.subset hrecorded))

theorem Next.mono {file : MigrationFile σ} (h : Next dir l file) (hl : l <:+ l') : Next dir l' file := by
  obtain ⟨⟨before, after, hfiles, hbefore⟩, names, hread, hmem⟩ := h
  exact ⟨⟨before, after, hfiles, fun g hg => (hbefore g hg).mono hl⟩, names, hl.subset hread, hmem⟩

/-- The table gets the name, which it did not have. -/
theorem insertName_ok {filename : Text} (h : insertName filename i d = .ok (u, d')) :
    filename ∉ applied d.rows ∧ applied d'.rows = applied d.rows ++ [filename] ∧
      d'.rows.schema = d.rows.schema := by
  simp only [insertName, Txn.bind_ok, Db.now_ok, Db.read_ok] at h
  obtain ⟨now, _, ⟨-, rfl⟩, inserted, _, ⟨hinserted, rfl⟩, h⟩ := h
  cases inserted with
  | none => cases h
  | some T' =>
    obtain rfl := Db.write_ok.1 h
    obtain ⟨T, hT, hinsert⟩ := Option.bind_eq_some_iff.1 hinserted
    have happlied : applied d.rows = T.rows.map SchemaMigration.filename := by
      rw [applied, hT]
      rfl
    refine ⟨?_, ?_, rfl⟩
    · rw [happlied]
      intro hmem
      obtain ⟨row, hrow, hname⟩ := List.mem_map.1 hmem
      exact Table.key_ne_of_insert? hinsert hrow hname
    · rw [happlied]
      show T'.rows.map SchemaMigration.filename = _
      rw [Table.rows_insert? hinsert, List.map_append, List.map_singleton]

theorem execute_ok {script : Script σ} (h : execute script i d = .ok (u, d')) :
    script.sql d.rows.schema = .ok d'.rows.schema ∧
      d'.rows.schemaMigrations = d.rows.schemaMigrations := by
  simp only [execute, Txn.bind_ok, Db.read_ok, Txn.lift_ok, Db.write_ok] at h
  obtain ⟨_, _, ⟨rfl, rfl⟩, schema', _, ⟨hsql, rfl⟩, rfl⟩ := h
  exact ⟨hsql, rfl⟩

end Commit

/-! ## What a run does -/

section Does

variable {dir : Directory σ} {l : Db.Deeds MigrationAct}

/-- A file that is next is known afterwards. -/
theorem does_applyFile {file : MigrationFile σ} (hnext : Next dir l file) :
    (applyFile file).Does (Db.effects (Effect dir)) (fun _ l' => Known l' file.filename) l := by
  unfold applyFile
  split
  · rename_i sql hscript
    refine Db.does_commit fun i d u d' h => ⟨?_, Or.inr (Or.inl List.mem_cons_self)⟩
    obtain ⟨_, d₁, hexecute, hinsert⟩ := Txn.bind_ok.1 h
    obtain ⟨hsql, htable⟩ := execute_ok hexecute
    obtain ⟨hfresh, happlied, hschema⟩ := insertName_ok hinsert
    have hsame : applied d₁.rows = applied d.rows := by rw [applied, htable, applied]
    rw [hsame] at hfresh happlied
    exact .migrated file hnext (by rw [hscript]; rfl) (hschema ▸ hsql) hfresh happlied
  · rename_i sql hscript
    have hplain : file.script.isPlain = false := by rw [hscript]; rfl
    refine (Db.does_commit (Q := fun _ _ => True) fun i d u d' _ =>
      ⟨.committing _ file hnext hplain _, trivial⟩).bind fun _ l' hl' _ => ?_
    exact Db.does_commit fun i d u d' _ =>
      ⟨.committing _ file (hnext.mono hl') hplain _, Or.inr (Or.inr List.mem_cons_self)⟩

/-- The loop, from the file it is at: the induction is on the files that are left. -/
theorem does_applyFiles {names : List Text} (files : List (MigrationFile σ)) :
    ∀ (before : List (MigrationFile σ)) (l : Db.Deeds MigrationAct),
      sqlFiles dir = before ++ files → (∀ g ∈ before, Known l g.filename) →
      some (.own (.appliedRead names)) ∈ l →
      (applyFiles names files).Does (Db.effects (Effect dir))
        (fun _ l' => ∀ file ∈ sqlFiles dir, Known l' file.filename) l := by
  induction files with
  | nil =>
    intro before l hfiles hbefore _
    rw [List.append_nil] at hfiles
    exact Proc.does_pure fun file hfile => hbefore file (hfiles ▸ hfile)
  | cons file files ih =>
    intro before l hfiles hbefore hread
    have hfile : (applyUnless names file).Does (Db.effects (Effect dir))
        (fun _ l' => Known l' file.filename) l := by
      unfold applyUnless
      split
      · exact Proc.does_pure (Or.inl ⟨names, hread, ‹_›⟩)
      · exact does_applyFile ⟨⟨before, files, hfiles, hbefore⟩, names, hread, ‹_›⟩
    refine hfile.bind fun _ l' hl' hknown => ?_
    refine ih (before ++ [file]) l' (by rw [hfiles, List.append_assoc, List.singleton_append]) ?_
      (hl'.subset hread)
    intro g hg
    rcases List.mem_append.1 hg with hg | hg
    · exact (hbefore g hg).mono hl'
    · exact List.mem_singleton.1 hg ▸ hknown

theorem program_covers (dir : Directory σ) : (Db.effects (Effect dir)).Covers (program dir) := by
  intro op
  refine (Db.does_commit (Q := fun _ _ => True) fun i d u d' h => ?_).bind fun _ l _ _ => ?_
  · obtain rfl := Db.write_ok.1 h
    exact ⟨.tableCreated, trivial⟩
  refine (Db.does_see (Q := fun names l' => some (.own (.appliedRead names)) ∈ l') fun r =>
    ⟨.appliedRead, List.mem_cons_self⟩).bind fun names l' _ hread => ?_
  refine (does_applyFiles (sqlFiles dir) [] l' rfl nofun hread).bind fun _ l'' _ hall => ?_
  refine Db.does_commit fun i d u d' h => ⟨?_, trivial⟩
  obtain ⟨-, rfl⟩ := Txn.pure_ok.1 h
  exact .succeeded hall

end Does

/-! ## What the runs have done -/

/-- Its name is not recorded. -/
def isPending (d : Database σ) (file : MigrationFile σ) : Bool := file.filename ∉ applied d

/-- The files that the runs have to take. -/
def pending (dir : Directory σ) (d : Database σ) : List (MigrationFile σ) :=
  (sqlFiles dir).filter (isPending d)

/-- What the files make of a schema, one after the other. -/
def replay (files : List (MigrationFile σ)) (schema : σ) : Except RisError σ :=
  files.foldlM (fun x f => f.script.sql x) schema

/-- From the database `d` the files `done` were taken, which are the first of those pending. -/
structure Migrated (dir : Directory σ) (d : Database σ) (done : List (MigrationFile σ)) (r : Database σ) :
    Prop where
  first : done <+: pending dir d
  recorded : applied r = applied d ++ done.map MigrationFile.filename
  schema : replay done d.schema = .ok r.schema

/-- What the calls know is so. -/
structure Informed (dir : Directory σ) (d : Database σ) (s : Db.Past (Database σ) MigrationAct) :
    Prop where
  known : ∀ t name, Known (own t s.hist) name → name ∈ applied s.store.rows
  read : ∀ t names, (t, some (.own (.appliedRead names))) ∈ s.hist → applied d ⊆ names
  succeeded : ∀ t, (t, some (.own .succeeded)) ∈ s.hist →
    ∀ file ∈ sqlFiles dir, file.filename ∈ applied s.store.rows

section Run

variable {dir : Directory σ} {d r : Database σ} {file : MigrationFile σ}
  {done : List (MigrationFile σ)} {s : Db.Past (Database σ) MigrationAct}

theorem filename_injective {f g : MigrationFile σ} (hf : f ∈ sqlFiles dir) (hg : g ∈ sqlFiles dir)
    (h : f.filename = g.filename) : f = g := by
  have hrows : ∀ f ∈ sqlFiles dir, f ∈ dir.rows := fun f hf =>
    (List.mem_filter.1 ((List.mem_insertionSort _).1 hf)).1
  exact Table.eq_of_mem (hrows f hf) (hrows g hg) h

theorem nodup_pending (dir : Directory σ) (d : Database σ) : (pending dir d).Nodup := by
  refine List.Nodup.filter _ ((List.perm_insertionSort _ _).nodup_iff.2 (List.Nodup.filter _ ?_))
  exact List.Nodup.of_map _ dir.keys_nodup

/-- In a list without repetitions, an element that is not in a prefix follows it directly if those before
the element are in the prefix. -/
theorem prefix_snoc {α : Type} {xs before after done : List α} {x : α} (hxs : xs.Nodup)
    (heq : xs = before ++ x :: after) (hdone : done <+: xs) (hx : x ∉ done) (hbefore : before ⊆ done) :
    done ++ [x] <+: xs := by
  obtain ⟨todo, htodo⟩ := hdone
  rcases List.append_eq_append_iff.1 (htodo.trans heq) with ⟨rest, hrest, htail⟩ | ⟨rest, hrest, htail⟩
  · -- the prefix stops before `x`, and what is left before `x` would occur twice
    cases rest with
    | nil =>
      rw [List.nil_append] at htail
      exact ⟨after, by rw [List.append_assoc, List.singleton_append, ← htail, htodo]⟩
    | cons y rest =>
      have hy : y ∈ done := hbefore (by simp [hrest])
      rw [← htodo, htail] at hxs
      exact absurd (List.mem_cons_self) (List.disjoint_of_nodup_append hxs hy)
  · cases rest with
    | nil =>
      rw [List.nil_append] at htail
      rw [List.append_nil] at hrest
      exact ⟨after, by rw [heq, hrest, List.append_assoc, List.singleton_append]⟩
    | cons y rest =>
      obtain ⟨rfl, -⟩ := List.cons.inj htail
      exact absurd (by simp [hrest]) hx

theorem mem_sqlFiles_of_pending (h : file ∈ pending dir d) :
    file ∈ sqlFiles dir ∧ file.filename ∉ applied d :=
  ⟨(List.mem_filter.1 h).1, of_decide_eq_true (List.mem_filter.1 h).2⟩

theorem Migrated.subset (h : Migrated dir d done r) : applied d ⊆ applied r := by
  rw [h.recorded]
  exact List.subset_append_left _ _

/-- The file that a call takes is the next one pending. -/
theorem Migrated.next (h : Migrated dir d done r) {l : Db.Deeds MigrationAct}
    (hknown : ∀ name, Known l name → name ∈ applied r) (hnext : Next dir l file) {r' : Database σ}
    (hsql : file.script.sql r.schema = .ok r'.schema) (hfresh : file.filename ∉ applied r)
    (happlied : applied r' = applied r ++ [file.filename]) : Migrated dir d (done ++ [file]) r' := by
  obtain ⟨before, after, hfiles, hbefore⟩ := hnext.before
  have hd : file.filename ∉ applied d := fun hmem => hfresh (h.subset hmem)
  have hpending : pending dir d = before.filter (isPending d) ++ file :: after.filter (isPending d) := by
    have hfile : isPending d file = true := decide_eq_true hd
    rw [pending, hfiles, List.filter_append, List.filter_cons_of_pos hfile]
  have hdone : ∀ f ∈ done, f ∈ pending dir d := fun f hf => h.first.subset hf
  refine ⟨prefix_snoc (nodup_pending dir d) hpending h.first (fun hmem => hfresh ?_) ?_, ?_, ?_⟩
  · rw [h.recorded]
    exact List.mem_append_right _ (List.mem_map_of_mem hmem)
  · -- a pending file before it is known to the call, so it is recorded, and not from the beginning
    intro g hg
    obtain ⟨hg, hgd⟩ := List.mem_filter.1 hg
    have hmem : g.filename ∈ applied r := hknown _ (hbefore g hg)
    rw [h.recorded] at hmem
    obtain ⟨f, hf, heq⟩ := List.mem_map.1 ((List.mem_append.1 hmem).resolve_left (of_decide_eq_true hgd))
    have hgfiles : g ∈ sqlFiles dir := hfiles ▸ List.mem_append_left _ hg
    exact filename_injective (mem_sqlFiles_of_pending (hdone f hf)).1 hgfiles heq ▸ hf
  · rw [happlied, h.recorded, List.map_append, List.map_singleton, List.append_assoc]
  · rw [replay, List.foldlM_append]
    show (replay done d.schema >>= fun x => [file].foldlM (fun x f => f.script.sql x) x) = _
    rw [h.schema]
    show (file.script.sql r.schema >>= pure) = _
    rw [hsql]
    rfl

/-- What the runs have done, and what their calls know. -/
structure Invariant (dir : Directory σ) (d : Database σ) (s : Db.Past (Database σ) MigrationAct) :
    Prop extends Informed dir d s where
  migrated : ∃ done, Migrated dir d done s.store.rows

theorem known_cons {l : Db.Deeds MigrationAct} {e : Option (Did MigrationAct)} {name : Text}
    (h : Known (e :: l) name) :
    Known l name ∨ (∃ names, e = some (.own (.appliedRead names)) ∧ name ∈ names) ∨
      e = some (.own (.migrated name)) ∨ e = some (.own (.recorded name)) := by
  rcases h with ⟨names, hread, hmem⟩ | hmigrated | hrecorded
  · rcases List.mem_cons.1 hread with heq | hread
    · exact Or.inr (Or.inl ⟨names, heq.symm, hmem⟩)
    · exact Or.inl (Or.inl ⟨names, hread, hmem⟩)
  · rcases List.mem_cons.1 hmigrated with heq | hmigrated
    · exact Or.inr (Or.inr (Or.inl heq.symm))
    · exact Or.inl (Or.inr (Or.inl hmigrated))
  · rcases List.mem_cons.1 hrecorded with heq | hrecorded
    · exact Or.inr (Or.inr (Or.inr heq.symm))
    · exact Or.inl (Or.inr (Or.inr hrecorded))

/-- A step that teaches its call only what is so keeps what the calls know. -/
theorem Informed.record (h : Informed dir d s) {t : ℕ} {e : Option (Did MigrationAct)} {w : Db (Database σ)}
    (hsub : applied s.store.rows ⊆ applied w.rows)
    (hread : ∀ names, e = some (.own (.appliedRead names)) → names ⊆ applied w.rows ∧ applied d ⊆ names)
    (hmigrated : ∀ name, e = some (.own (.migrated name)) ∨ e = some (.own (.recorded name)) →
      name ∈ applied w.rows)
    (hsucceeded : e = some (.own .succeeded) → ∀ file ∈ sqlFiles dir, Known (own t s.hist) file.filename) :
    Informed dir d (s.record t e w) where
  known := by
    intro u name hname
    by_cases hu : t = u
    · subst hu
      rw [State.record_hist, own_cons_self] at hname
      rcases known_cons hname with hname | ⟨names, he, hmem⟩ | he
      · exact hsub (h.known t name hname)
      · exact (hread names he).1 hmem
      · exact hmigrated name he
    · rw [State.record_hist, own_cons_of_ne hu] at hname
      exact hsub (h.known u name hname)
  read := by
    intro u names hmem
    rcases List.mem_cons.1 hmem with heq | hmem
    · exact (hread names (Prod.mk.inj heq).2.symm).2
    · exact h.read u names hmem
  succeeded := by
    intro u hmem file hfile
    rcases List.mem_cons.1 hmem with heq | hmem
    · exact hsub (h.known t _ (hsucceeded (Prod.mk.inj heq).2.symm file hfile))
    · exact hsub (h.succeeded u hmem file hfile)

/-- The step lemma. -/
theorem Invariant.record (hplain : ∀ file ∈ pending dir d, file.script.isPlain = true)
    (h : Invariant dir d s) {t : ℕ} {e : Did MigrationAct} {w : Db (Database σ)}
    (heff : Db.effects (Effect dir) (own t s.hist) s.store e w) :
    Invariant dir d (s.record t (some e) w) := by
  obtain ⟨done, hdone⟩ := h.migrated
  cases e with
  | own e =>
    have heff : Effect dir (own t s.hist) s.store.rows e w.rows := heff
    generalize hw : w.rows = rows at heff
    cases heff with
    | tableCreated =>
      have hsame : applied w.rows = applied s.store.rows := by
        rw [hw]
        unfold applied
        cases s.store.rows.schemaMigrations <;> rfl
      refine ⟨h.toInformed.record (by rw [hsame]; exact List.Subset.refl _) nofun nofun nofun, done,
        hdone.first, hsame.trans hdone.recorded, ?_⟩
      show replay done d.schema = .ok w.rows.schema
      rw [hw]
      exact hdone.schema
    | appliedRead =>
      refine ⟨h.toInformed.record (by rw [hw]; exact List.Subset.refl _) (fun names he => ?_) nofun nofun,
        done, hw ▸ hdone⟩
      obtain rfl := MigrationAct.appliedRead.inj (Did.own.inj (Option.some.inj he))
      exact ⟨by rw [hw]; exact List.Subset.refl _, hdone.subset⟩
    | migrated file hnext _ hsql hfresh happlied =>
      subst hw
      refine ⟨h.toInformed.record ?_ nofun (fun name he => ?_) nofun, done ++ [file],
        hdone.next (h.known t) hnext hsql hfresh happlied⟩
      · rw [happlied]
        exact List.subset_append_left _ _
      · rcases he with he | he
        · obtain rfl := MigrationAct.migrated.inj (Did.own.inj (Option.some.inj he))
          rw [happlied]
          exact List.mem_append_right _ (List.mem_singleton_self _)
        · cases he
    | committing _ file hnext hcommitting _ =>
      obtain ⟨before, after, hfiles, -⟩ := hnext.before
      obtain ⟨names, hread, hunread⟩ := hnext.unread
      have hfile : file ∈ pending dir d := by
        refine List.mem_filter.2 ⟨hfiles ▸ List.mem_append_right _ List.mem_cons_self, decide_eq_true ?_⟩
        exact fun hmem => hunread (h.read t names (mem_own.1 hread) hmem)
      rw [hplain file hfile] at hcommitting
      cases hcommitting
    | succeeded hall =>
      exact ⟨h.toInformed.record (by rw [hw]; exact List.Subset.refl _) nofun nofun fun _ => hall, done,
        hw ▸ hdone⟩
  | _ =>
    have hw : w.rows = s.store.rows := heff
    exact ⟨h.toInformed.record (by rw [hw]; exact List.Subset.refl _) nofun nofun nofun, done, hw ▸ hdone⟩

/-- The run lemma. -/
theorem invariant (hplain : ∀ file ∈ pending dir d, file.script.isPlain = true) {db : Db (Database σ)}
    (hdb : db.rows = d) {C : Cond (Db (Database σ)) (Did MigrationAct)}
    {s : Db.System (Database σ) MigrationAct}
    (hs : Reaches (program dir) C (Sys.init db) s) : Invariant dir d s.toState := by
  refine Effects.invariant (program_covers dir) ?_ ?_ ?_ hs
  · intro s t h
    exact ⟨h.toInformed.record (List.Subset.refl _) nofun nofun nofun, h.migrated⟩
  · subst hdb
    refine ⟨⟨fun t name hname => ?_, nofun, nofun⟩, [], List.nil_prefix, (List.append_nil _).symm, rfl⟩
    rcases hname with ⟨names, hread, -⟩ | hname | hname
    · cases hread
    · cases hname
    · cases hname
  · exact fun s t e w h heff _ => h.record hplain heff

end Run

/-- Whatever the runs do, and wherever they fail: the schema is what the first so many pending files make of
it, in their order, each of them once, and these are the names that were added to `schema_migrations`. -/
theorem migrated_in_order (dir : Directory σ) (db : Db (Database σ))
    (hplain : ∀ file ∈ pending dir db.rows, file.script.isPlain = true)
    (s : Db.System (Database σ) MigrationAct)
    (hs : Reaches (program dir) always (Sys.init db) s) :
    ∃ done, done <+: pending dir db.rows ∧
      applied s.store.rows = applied db.rows ++ done.map MigrationFile.filename ∧
      replay done db.rows.schema = .ok s.store.rows.schema := by
  obtain ⟨done, hdone⟩ := (invariant hplain rfl hs).migrated
  exact ⟨done, hdone.first, hdone.recorded, hdone.schema⟩

/-! ## A run that ends well -/

theorem okAfter_runMigrations (dir : Directory σ) (op : Unit) :
    (program dir op).OkAfter fun e => e = .own .succeeded := by
  refine Proc.okAfter_bind fun _ => Proc.okAfter_bind fun names => Proc.okAfter_bind fun _ => ?_
  exact Proc.okAfter_transaction fun _ _ _ _ _ => rfl

/-- When a run has ended well, every pending file has been taken, whichever run took it: the schema does not
depend on how many runs there were and how they overlapped. -/
theorem migrated_completely (dir : Directory σ) (db : Db (Database σ))
    (hplain : ∀ file ∈ pending dir db.rows, file.script.isPlain = true)
    (s : Db.System (Database σ) MigrationAct)
    (hs : Reaches (program dir) always (Sys.init db) s) (t : ℕ)
    (ht : s.calls[t]? = some (some (.done (.ok ())))) :
    applied s.store.rows = applied db.rows ++ (pending dir db.rows).map MigrationFile.filename ∧
      replay (pending dir db.rows) db.rows.schema = .ok s.store.rows.schema := by
  have hinv := invariant hplain rfl hs
  obtain ⟨done, hdone⟩ := hinv.migrated
  obtain ⟨e, he, rfl⟩ := exists_of_ok (okAfter_runMigrations dir) hs ht
  have hall : pending dir db.rows ⊆ done := by
    intro file hfile
    obtain ⟨hmem, hnew⟩ := mem_sqlFiles_of_pending hfile
    have happlied := hinv.succeeded t he file hmem
    rw [hdone.recorded] at happlied
    obtain ⟨f, hf, heq⟩ := List.mem_map.1 ((List.mem_append.1 happlied).resolve_left hnew)
    have hffiles := (mem_sqlFiles_of_pending (hdone.first.subset hf)).1
    exact filename_injective hffiles hmem heq ▸ hf
  have heq : done = pending dir db.rows := by
    refine hdone.first.eq_of_length (Nat.le_antisymm hdone.first.length_le ?_)
    exact (List.subperm_of_subset (nodup_pending dir db.rows) hall).length_le
  rw [← heq]
  exact ⟨hdone.recorded, hdone.schema⟩

/-! ## Two runs that overlap -/

/-- A schema that counts: the second file needs the first. -/
def sampleDirectory : Directory ℕ where
  rows :=
    [{ filename := units "002.sql", script := .plain fun n => if n = 1 then .ok 12 else .error (.runtime "") },
      { filename := units "run.ts", script := .plain fun n => .ok (n + 100) },
      { filename := units "001.sql", script := .plain fun n => .ok (n + 1) }]
  keys_nodup := by decide

def sampleDatabase : Db (Database ℕ) where
  rows := { schema := 0 }

theorem plain_sample : ∀ file ∈ pending sampleDirectory sampleDatabase.rows, file.script.isPlain = true := by
  decide +kernel

/-- Two runs that both read the empty table: the second loses the first file to the first run and fails, and
the first run takes the second file. -/
def overlapping : List (Act Unit Input) :=
  [.start (), .start (), .move 0 {}, .move 1 {}, .move 0 {}, .move 1 {}, .move 0 {}, .move 1 {}, .ret 1,
    .move 0 {}, .move 0 {}]

theorem exists_overlapping : ∃ s : Db.System (Database ℕ) MigrationAct,
    Reaches (program sampleDirectory) always (Sys.init sampleDatabase) s ∧ s.store.rows.schema = 12 ∧
      s.calls[0]? = some (some (.done (.ok ()))) := by
  obtain ⟨s, hs, hP⟩ := exists_reaches (program sampleDirectory) always (Sys.init sampleDatabase) overlapping
    (fun s => decide (s.store.rows.schema = 12) && endsOk 0 s) (by decide +kernel)
  rw [Bool.and_eq_true, endsOk_iff] at hP
  exact ⟨s, hs, of_decide_eq_true hP.1, hP.2⟩

theorem migrated_in_order_overlapping : ∃ s : Db.System (Database ℕ) MigrationAct,
    s.store.rows.schema = 12 ∧
      ∃ done, done <+: pending sampleDirectory sampleDatabase.rows ∧
        applied s.store.rows = applied sampleDatabase.rows ++ done.map MigrationFile.filename ∧
        replay done sampleDatabase.rows.schema = .ok s.store.rows.schema := by
  obtain ⟨s, hs, hschema, -⟩ := exists_overlapping
  exact ⟨s, hschema, migrated_in_order sampleDirectory sampleDatabase plain_sample s hs⟩

theorem migrated_completely_overlapping : ∃ s : Db.System (Database ℕ) MigrationAct,
    s.store.rows.schema = 12 ∧
      applied s.store.rows = applied sampleDatabase.rows ++
          (pending sampleDirectory sampleDatabase.rows).map MigrationFile.filename ∧
        replay (pending sampleDirectory sampleDatabase.rows) sampleDatabase.rows.schema =
          .ok s.store.rows.schema := by
  obtain ⟨s, hs, hschema, hends⟩ := exists_overlapping
  exact ⟨s, hschema, migrated_completely sampleDirectory sampleDatabase plain_sample s hs 0 hends⟩

end Ris.MigrationRunner
