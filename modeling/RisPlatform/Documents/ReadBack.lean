import RisPlatform.Documents.Service
import RisPlatform.Onboarding.Transitions

/-!
# Uploaded documents are read back

The upload writes the encrypted file under the document's id, and the id with `.enc` into
`encrypted_path`. The onboarding service reads the column as that name and decrypts the file. The documents
service decrypts the column itself, which is no encrypted text, so it hands out no uploaded document.
-/

namespace Ris.Documents

open Relational Concurrent Utf16 Onboarding

/-! ## The names of the files -/

section Names

variable {documentId : ℕ} {x : UInt16} {t : Text}

theorem mem_of_mem_intercalate {sep : Text} {parts : List Text} (h : x ∈ sep.intercalate parts) :
    x ∈ sep ∨ ∃ part ∈ parts, x ∈ part := by
  induction parts with
  | nil => exact absurd h List.not_mem_nil
  | cons part parts ih =>
    cases parts with
    | nil =>
      rw [List.intercalate_singleton] at h
      exact Or.inr ⟨part, List.mem_cons_self, h⟩
    | cons part' parts =>
      rw [List.intercalate_cons_cons, List.append_assoc, List.mem_append, List.mem_append] at h
      rcases h with hx | hx | hx
      · exact Or.inr ⟨part, List.mem_cons_self, hx⟩
      · exact Or.inl hx
      · exact (ih hx).imp_right fun ⟨p, hp, hx⟩ => ⟨p, List.mem_cons_of_mem part hp, hx⟩

/-- A UUID has digits and hyphens. -/
theorem mem_uuidText (h : x ∈ uuidText documentId) : x ∈ toHex (lastBytes 16 documentId) ∨ x = 45 := by
  unfold uuidText at h
  generalize toHex (lastBytes 16 documentId) = hex at h ⊢
  rcases mem_of_mem_intercalate h with hx | ⟨part, hpart, hx⟩
  · exact Or.inr (List.mem_singleton.1 hx)
  · refine Or.inl ?_
    simp only [List.mem_cons, List.not_mem_nil, or_false] at hpart
    rcases hpart with rfl | rfl | rfl | rfl | rfl
    · exact List.mem_of_mem_take hx
    · exact List.mem_of_mem_drop (List.mem_of_mem_take hx)
    · exact List.mem_of_mem_drop (List.mem_of_mem_take hx)
    · exact List.mem_of_mem_drop (List.mem_of_mem_take hx)
    · exact List.mem_of_mem_drop hx

theorem not_separator (h : x ∈ encryptedFileName documentId) : x ≠ Crypto.colon ∧ x ≠ slash := by
  rcases List.mem_append.1 h with hx | hx
  · rcases mem_uuidText hx with hx | rfl
    · have hdigit := isDigit_of_mem_toHex hx
      constructor
      · rintro rfl
        exact absurd hdigit (by decide)
      · rintro rfl
        exact absurd hdigit (by decide)
    · decide
  · have hall : ∀ y ∈ units ".enc", y ≠ Crypto.colon ∧ y ≠ slash := by decide +kernel
    exact hall x hx

theorem length_encryptedFileName : 4 ≤ (encryptedFileName documentId).length := by
  rw [encryptedFileName, List.length_append]
  exact Nat.le_add_left 4 _

/-- The name stands for the file of that name under `UPLOAD_DIR`. -/
theorem resolvePath_encryptedFileName (base : List Text) :
    resolvePath base (encryptedFileName documentId) = base ++ [encryptedFileName documentId] := by
  have hlength : 4 ≤ (encryptedFileName documentId).length := length_encryptedFileName
  have hslash : slash ∉ encryptedFileName documentId := fun h => (not_separator h).2 rfl
  have hhead : (encryptedFileName documentId).head? ≠ some slash :=
    fun h => hslash (List.mem_of_mem_head? h)
  have hname : ∀ name : Text, name.length < 4 → encryptedFileName documentId ≠ name := by
    rintro name hshort rfl
    omega
  rw [resolvePath, List.splitOn_eq_singleton hslash, if_neg hhead, List.foldl_cons, List.foldl_nil,
    if_neg (not_or.2 ⟨hname [] (by decide), hname (units ".") (by decide)⟩),
    if_neg (hname (units "..") (by decide))]

/-- The name is no encrypted text. -/
theorem decrypt_encryptedFileName (gcm : Crypto.Gcm) (key : Option Text) :
    Crypto.decrypt gcm key (encryptedFileName documentId) = .error .invalidFormat := by
  have hparts : (encryptedFileName documentId).splitOn Crypto.colon = [encryptedFileName documentId] :=
    List.splitOn_eq_singleton fun h => (not_separator h).1 rfl
  have hparse : Crypto.parseEncryptedText key (encryptedFileName documentId) = .error .invalidFormat := by
    refine Crypto.parse_other (fun version iv authTag ciphertext h => ?_) fun iv authTag ciphertext h => ?_
    · exact absurd (congrArg List.length (hparts.symm.trans h)) (show (1 : ℕ) ≠ 4 by decide)
    · exact absurd (congrArg List.length (hparts.symm.trans h)) (show (1 : ℕ) ≠ 3 by decide)
  rw [Crypto.decrypt, hparse]
  rfl

end Names

/-! ## The contents of the files -/

/-- The ciphertext of a file is opened to its bytes. -/
theorem decrypt_encrypted {env : Onboarding.Env} {i : Input} {bytes : List UInt8} {content : Text}
    (hgcm : env.gcm.Lawful) (hiv : (env.randomBytes i 0).length = Crypto.IV_LENGTH)
    (h : encrypt env i 0 (Base64.encode bytes) = .ok content) :
    Crypto.decrypt env.gcm env.encryptionKey content = .ok (Base64.encode bytes) := by
  have hencrypt : Crypto.encrypt env.gcm env.encryptionKey (env.randomBytes i 0) (Base64.encode bytes) =
      .ok content := by
    rw [encrypt] at h
    cases hc : Crypto.encrypt env.gcm env.encryptionKey (env.randomBytes i 0) (Base64.encode bytes) with
    | error e =>
      rw [hc] at h
      cases h
    | ok text =>
      rw [hc] at h
      exact congrArg Except.ok (Except.ok.inj h)
  obtain ⟨key, hkey, hrest⟩ := Crypto.bind_eq_ok.1 hencrypt
  obtain ⟨_, hlength, hcontent⟩ := Crypto.bind_eq_ok.1 hrest
  have hreads := Crypto.versioned_joined (env.randomBytes i 0)
    (env.gcm.encipher key (env.randomBytes i 0) (toUtf8 (Base64.encode bytes))).2
    (env.gcm.encipher key (env.randomBytes i 0) (toUtf8 (Base64.encode bytes))).1
  obtain rfl := Except.ok.inj hcontent
  have hread := Crypto.decrypt_of_reads hgcm hkey (Crypto.checkKeyLength_ok_iff.1 hlength) hiv rfl
    (Or.inr ⟨units "1", hreads, by decide⟩)
  rw [hread.2, toWellFormed_of_isWellFormed (Base64.isWellFormed_encode bytes)]

/-! ## What the uploads leave -/

/-- The file is stored encrypted under the id of its document. -/
def StoresFile (env : Onboarding.Env) (r : KycRows) (documentId : ℕ) (file : UploadedFile) : Prop :=
  ∃ i content, encrypt env i 0 (Base64.encode file.buffer) = .ok content ∧
    r.files.lookup (encryptedFileName documentId) = some content

/-- What an act has left in the rows. -/
def Left (env : Onboarding.Env) (r : KycRows) : KycAct → Prop
  | .supplierRead (some x) => ∃ y, r.suppliers.get? x.id = some y
  | .fileWritten documentId file => StoresFile env r documentId file
  | .documentCreated documentId supplierId file =>
    StoresFile env r documentId file ∧ (∃ y, r.suppliers.get? supplierId = some y) ∧
      ∃ x, r.documents.get? documentId = some x ∧ x.Stores documentId supplierId file
  | _ => True

/-- No file has the name of one that is written: `uuidv4` draws an id that has not been drawn. -/
def FreshFile : Cond (Db KycRows) (Did KycAct) := fun s _ e =>
  match e with
  | .own (.fileWritten documentId _) => s.store.rows.files.lookup (encryptedFileName documentId) = none
  | _ => True

instance (s : State (Db KycRows) (Did KycAct)) (t : ℕ) : ∀ e : Did KycAct, Decidable (FreshFile s t e)
  | .own (.fileWritten documentId _) =>
    inferInstanceAs (Decidable (s.store.rows.files.lookup (encryptedFileName documentId) = none))
  | .own (.supplierRead _) | .own (.documentCreated ..) | .own (.documentReviewed ..)
  | .own (.statusChanged ..) | .own (.autoAdvanced _) | .own (.autoApproved ..)
  | .read | .threw | .logged _ | .enqueued _ | .audited _ => instDecidableTrue

section Step

variable {env : Onboarding.Env} {l : List (Option (Did KycAct))} {r r' : KycRows} {e e' : KycAct}

theorem lookup_of_effect (he : KycEffect env l r e r')
    (hfresh : ∀ documentId file, e = .fileWritten documentId file →
      r.files.lookup (encryptedFileName documentId) = none)
    {name content : Text} (h : r.files.lookup name = some content) :
    r'.files.lookup name = some content := by
  cases he with
  | fileWritten documentId file r' hsuppliers hdocuments hfiles =>
    obtain ⟨i, written, -, hfiles⟩ := hfiles
    have hnone := hfresh documentId file rfl
    -- the name of the new file stays folded
    generalize encryptedFileName documentId = new at hfiles hnone
    have hne : name ≠ new := by
      rintro rfl
      rw [hnone] at h
      cases h
    rw [hfiles, List.lookup_cons, beq_eq_false_iff_ne.2 hne]
    exact h
  | documentCreated documentId supplierId file r' hsuppliers hfiles => rwa [hfiles]
  | documentReviewed documentId decision r' hsuppliers hfiles => rwa [hfiles]
  | _ => exact h

theorem row_of_effect (he : KycEffect env l r e r') {k : ℕ} {x : DocumentRecord}
    (h : r.documents.get? k = some x) :
    ∃ y, r'.documents.get? k = some y ∧ ∀ documentId supplierId file,
      x.Stores documentId supplierId file → y.Stores documentId supplierId file := by
  cases he with
  | fileWritten documentId file r' hsuppliers hdocuments => exact ⟨x, hdocuments ▸ h, fun _ _ _ hx => hx⟩
  | documentCreated documentId supplierId file r' hsuppliers hfiles hread hwritten hinsert =>
    obtain ⟨data, -, hinsert⟩ := hinsert
    exact ⟨x, Table.get?_insert?_of_get? hinsert h, fun _ _ _ hx => hx⟩
  | documentReviewed documentId decision r' hsuppliers hfiles hkept => exact hkept k x h
  | _ => exact ⟨x, h, fun _ _ _ hx => hx⟩

/-- What an act has left stays. -/
theorem Left.mono (h : Left env r e') (he : KycEffect env l r e r')
    (hfresh : ∀ documentId file, e = .fileWritten documentId file →
      r.files.lookup (encryptedFileName documentId) = none) : Left env r' e' := by
  have hfile : ∀ documentId file, StoresFile env r documentId file → StoresFile env r' documentId file :=
    fun documentId file ⟨i, content, hcontent, hlookup⟩ =>
      ⟨i, content, hcontent, lookup_of_effect he hfresh hlookup⟩
  match e', h with
  | .supplierRead (some x), ⟨y, hy⟩ => exact exists_of_effect he hy
  | .supplierRead none, _ => exact trivial
  | .fileWritten documentId file, h => exact hfile documentId file h
  | .documentCreated documentId supplierId file, ⟨hstored, ⟨y, hy⟩, x, hx, hstores⟩ =>
    obtain ⟨x', hx', hkept⟩ := row_of_effect he hx
    exact ⟨hfile documentId file hstored, exists_of_effect he hy, x', hx', hkept _ _ _ hstores⟩
  | .documentReviewed _ _, _ => exact trivial
  | .statusChanged _ _ _ _, _ => exact trivial
  | .autoAdvanced _, _ => exact trivial
  | .autoApproved _ _ _, _ => exact trivial

/-- And the act that is done now leaves it. -/
theorem left_of_effect (he : KycEffect env l r e r')
    (hl : ∀ e', some (.own e') ∈ l → Left env r' e') : Left env r' e := by
  cases he with
  | supplierRead found hfound =>
    cases found with
    | none => exact trivial
    | some x => exact ⟨x, hfound x rfl⟩
  | fileWritten documentId file r' hsuppliers hdocuments hfiles =>
    obtain ⟨i, content, hcontent, hfiles⟩ := hfiles
    refine ⟨i, content, hcontent, ?_⟩
    rw [hfiles, List.lookup_cons, beq_self_eq_true]
  | documentCreated documentId supplierId file r' hsuppliers hfiles hread hwritten hinsert =>
    obtain ⟨status, x, hx, rfl, -⟩ := hread
    obtain ⟨data, hdata, hinsert⟩ := hinsert
    refine ⟨hl _ hwritten, hl _ hx, data, ?_, hdata⟩
    rw [Table.get?_insert? hinsert, if_pos hdata.1.symm]
  | _ => exact trivial

end Step

/-- In every state of a run, what was done has left its rows and files. -/
theorem left_of_reaches {cfg : Config} {env : Onboarding.Env} {d : Db KycRows}
    {s : Sys (Db KycRows) Input (Did KycAct) RisError}
    (hs : Reaches (kycProgram cfg env) FreshFile (Sys.init d) s) {t : ℕ} {e : KycAct}
    (he : (t, some (.own e)) ∈ s.hist) : Left env s.store.rows e := by
  have hinv : ∀ t e, (t, some (Did.own e)) ∈ s.hist → Left env s.store.rows e := by
    refine Effects.invariant (P := fun s => ∀ t e, (t, some (Did.own e)) ∈ s.hist → Left env s.store.rows e)
      (kycProgram_covers cfg env) ?_ (fun _ _ h => absurd h List.not_mem_nil) ?_ hs
    · intro s t hP t' e' hmem
      exact hP t' e' ((List.mem_cons.1 hmem).resolve_left (by simp))
    · intro s t e d' hP heff hC t' e' hmem
      cases e with
      | own e =>
        have hfresh : ∀ documentId file, e = .fileWritten documentId file →
            s.store.rows.files.lookup (encryptedFileName documentId) = none := by
          rintro documentId file rfl
          exact hC
        rcases List.mem_cons.1 hmem with hnew | hold
        · obtain ⟨rfl, heq⟩ := Prod.mk.inj hnew
          obtain rfl := Did.own.inj (Option.some.inj heq)
          exact left_of_effect heff fun e'' he'' => (hP t' e'' (mem_own.1 he'')).mono heff hfresh
        · exact (hP t' e' hold).mono heff hfresh
      | _ =>
        have hrows : d'.rows = s.store.rows := heff
        show Left env d'.rows e'
        rw [hrows]
        exact hP t' e' ((List.mem_cons.1 hmem).resolve_left (by simp))
  exact hinv t e he

/-! ## The onboarding service -/

/-- The supplier that a requester's id stands for. -/
def requested (r : KycRows) (idParam requestingUserId : ℕ) (requestingUserRole : String) :
    Option SupplierRecord :=
  match Repo.findSupplierById idParam r with
  | some supplier => some supplier
  | none =>
    if requestingUserRole = "supplier" ∧ idParam = requestingUserId then
      Repo.findSupplierByUserId requestingUserId r
    else none

section Fetch

variable {env : Onboarding.Env} {cwd : List Text} {ins : ℕ → Input} {n : ℕ} {d : Db KycRows}

theorem play_resolveSupplierForRequester (hins : ∀ k, (ins k).fault = none) (idParam userId : ℕ)
    (role : String) :
    ∃ n', (resolveSupplierForRequester idParam userId role).play ins n d =
      (.ok (requested d.rows idParam userId role), d, n') := by
  unfold resolveSupplierForRequester requested
  rw [Proc.play_bind_ok (Db.play_see (hins n) _ _)]
  cases Repo.findSupplierById idParam d.rows with
  | some supplier => exact ⟨n + 1, rfl⟩
  | none =>
    dsimp only
    split
    · exact ⟨n + 2, Db.play_see (hins (n + 1)) _ _⟩
    · exact ⟨n + 1, rfl⟩

theorem play_readAndDecryptDocument (hins : ∀ k, (ins k).fault = none) {documentId : ℕ}
    {file : UploadedFile}
    (hgcm : env.gcm.Lawful) (hiv : ∀ i k, (env.randomBytes i k).length = Crypto.IV_LENGTH)
    (hstored : StoresFile env d.rows documentId file) (docId : ℕ) :
    (readAndDecryptDocument cwd env docId (encryptedFileName documentId)).play ins n d =
      (.ok file.buffer, d, n + 1) := by
  obtain ⟨i, content, hcontent, hlookup⟩ := hstored
  have hpath : resolveEncryptedFilePath cwd (encryptedFileName documentId) =
      .ok (uploadDir cwd ++ [encryptedFileName documentId]) := by
    unfold resolveEncryptedFilePath
    rw [resolvePath_encryptedFileName]
    exact if_neg (not_not.2 (List.prefix_append _ _))
  have hfile : storedFile cwd (uploadDir cwd ++ [encryptedFileName documentId]) d.rows = some content := by
    rw [storedFile, List.dropLast_concat, if_pos rfl, List.getLast?_concat]
    exact hlookup
  unfold readAndDecryptDocument
  rw [hpath]
  show (if _ then _ else _ : KycCall (List UInt8)).play ins n d = _
  rw [if_neg (by simp), Proc.play_bind_ok (Db.play_query (hins n) _), hfile]
  dsimp only
  rw [decrypt_encrypted hgcm (hiv i 0) hcontent]
  dsimp only
  rw [Base64.decode_encode]
  rfl

theorem play_getSupplierDocumentFile (hins : ∀ k, (ins k).fault = none) {documentId supplierId : ℕ}
    {file : UploadedFile} (hgcm : env.gcm.Lawful)
    (hiv : ∀ i k, (env.randomBytes i k).length = Crypto.IV_LENGTH)
    (hleft : Left env d.rows (.documentCreated documentId supplierId file))
    {idParam userId : ℕ} {role : String} {supplier : SupplierRecord}
    (hrequested : requested d.rows idParam userId role = some supplier) (hid : supplier.id = supplierId)
    (hauthorized : authorizeDocumentDownload supplier userId role = .ok ()) :
    ∃ fileName n', (getSupplierDocumentFile cwd env idParam documentId userId role).play ins n d =
      (.ok ⟨file.buffer, file.mimetype, fileName⟩, d, n') := by
  obtain ⟨hstored, -, x, hx, hxid, hxsupplier, hpath, hmime⟩ := hleft
  have hfound : Repo.findDocumentByIdAndSupplier documentId supplier.id d.rows = some x := by
    rw [Repo.findDocumentByIdAndSupplier, hx, Option.filter_some, if_pos (by simp [hxsupplier, hid])]
  obtain ⟨n', hplay⟩ := play_resolveSupplierForRequester (n := n) (d := d) hins idParam userId role
  refine ⟨buildDownloadFileName x, n' + 1 + 1 + 1, ?_⟩
  unfold getSupplierDocumentFile
  rw [Proc.play_bind_ok hplay, hrequested]
  dsimp only
  rw [hauthorized]
  refine (Proc.play_bind_ok (Db.play_query (hins n') _)).trans ?_
  rw [hfound]
  dsimp only
  rw [hpath, Proc.play_bind_ok (play_readAndDecryptDocument hins hgcm hiv hstored documentId),
    Proc.play_bind_ok (Db.play_log (hins _) _), hmime]
  rfl

end Fetch

/-! ## The documents service -/

section Download

variable {env : Onboarding.Env} {cwd : List Text} {ins : ℕ → Input} {n : ℕ} {d : Db DocumentRows}
  {documentId : ℕ} {x : DocumentRecord}

theorem getDocumentForDownload_fails (hx : d.rows.kyc.documents.get? documentId = some x)
    (hpath : x.encryptedPath = encryptedFileName documentId) (userId : ℕ) (role : String) (req : Request) :
    ∃ e d' n', (getDocumentForDownload env documentId userId role req).play ins n d =
      (.error e, d', n') := by
  unfold getDocumentForDownload
  by_cases hn : (ins n).fault = none
  · rw [Proc.play_bind_ok (Db.play_query hn _)]
    have hfound : Repo.getDocumentById documentId d.rows = some x := hx
    rw [hfound]
    -- every way through the checks ends with an error, the last one at the path
    have hany : ∀ {α : Type} (f : Db.Tx DocumentRows α) (committed : α → Did DocumentAct),
        (Proc.transaction f committed fun _ => Did.threw).Gives (fun _ => True) (fun _ => True)
          fun _ : RisError => True :=
      fun f committed => Proc.gives_transaction (fun _ _ _ _ _ _ => trivial) fun _ _ _ _ _ => trivial
    refine Proc.Gives.play_error (E := fun _ => True) ((hany _ _).bind fun allowed _ => ?_) ins (n + 1) d
    split
    · exact trivial
    split
    · exact trivial
    refine (hany _ _).bind fun downloadCount _ => ?_
    split
    · exact trivial
    rw [hpath, decrypt_encryptedFileName]
    exact trivial
  · obtain ⟨e, he⟩ : ∃ e, (getDocumentForDownload env documentId userId role req).play ins n d =
        (.error e, d, n + 1) := Db.play_fault hn
    exact ⟨e, d, n + 1, he⟩

theorem downloadHandler_fails (hx : d.rows.kyc.documents.get? documentId = some x)
    (hpath : x.encryptedPath = encryptedFileName documentId) (userId : ℕ) (role : String) (req : Request) :
    ∃ e d' n', (downloadHandler cwd env documentId userId role req).play ins n d =
      (.error e, d', n') := by
  obtain ⟨e, d', n', he⟩ : ∃ e d' n', (getDocumentForDownload env documentId userId role req).play ins n d =
      (.error e, d', n') := getDocumentForDownload_fails hx hpath userId role req
  exact ⟨e, d', n', Proc.play_bind_error he⟩

end Download

/-- Every uploaded document is handed out by the onboarding service, with its bytes and its type, to
everybody who may have it, and by the documents service to nobody. -/
theorem uploads_readBack (cfg : Config) {env : Onboarding.Env} (hgcm : env.gcm.Lawful)
    (hiv : ∀ i k, (env.randomBytes i k).length = Crypto.IV_LENGTH) (cwd : List Text) {d : Db KycRows}
    {s : Sys (Db KycRows) Input (Did KycAct) RisError}
    (hs : Reaches (kycProgram cfg env) FreshFile (Sys.init d) s)
    {t documentId supplierId : ℕ} {file : UploadedFile}
    (hcreated : (t, some (.own (.documentCreated documentId supplierId file))) ∈ s.hist) :
    (∃ supplier, s.store.rows.suppliers.get? supplierId = some supplier) ∧
      (∀ idParam userId role supplier (ins : ℕ → Input),
        requested s.store.rows idParam userId role = some supplier → supplier.id = supplierId →
        authorizeDocumentDownload supplier userId role = .ok () → (∀ k, (ins k).fault = none) →
        ∃ fileName n', (getSupplierDocumentFile cwd env idParam documentId userId role).play ins 0 s.store =
          (.ok ⟨file.buffer, file.mimetype, fileName⟩, s.store, n')) ∧
      ∀ userId role req (ins : ℕ → Input) (d' : Db DocumentRows), d'.rows.kyc = s.store.rows →
        ∃ e d'' n', (downloadHandler cwd env documentId userId role req).play ins 0 d' =
          (.error e, d'', n') := by
  have hleft : Left env s.store.rows (.documentCreated documentId supplierId file) :=
    left_of_reaches hs hcreated
  refine ⟨hleft.2.1, ?_, ?_⟩
  · intro idParam userId role supplier ins hrequested hid hauthorized hins
    exact play_getSupplierDocumentFile hins hgcm hiv hleft hrequested hid hauthorized
  · intro userId role req ins d' hd'
    obtain ⟨-, -, x, hx, hstores⟩ := hleft
    exact downloadHandler_fails (by rw [hd']; exact hx) hstores.2.2.1 userId role req

/-! ## A sample -/

/-- A supplier with no documents. -/
def sampleSupplier : Db KycRows where
  rows :=
    { suppliers := .single { id := 1, userId := 10 }
      documents := .empty
      users := .empty }

def sampleFile : UploadedFile where
  buffer := [0x68, 0x69]
  originalname := "id.png"
  mimetype := "image/png"
  size := 2

def sampleUpload : KycOp := .uploadDocument 1 10 "supplier" sampleFile "id_document" {}

/-- The supplier's user uploads a file, and an officer reads it. -/
theorem sample_readBack :
    ∃ s, Reaches (kycProgram {} sampleEnv) FreshFile (Sys.init sampleSupplier) s ∧
      ∃ fileName n', (getSupplierDocumentFile [] sampleEnv 1 5 20 "credit_officer").play
        (fun _ => ({} : Input)) 0 s.store = (.ok ⟨[0x68, 0x69], "image/png", fileName⟩, s.store, n') := by
  obtain ⟨s, hs, hP⟩ := exists_reaches (kycProgram {} sampleEnv) FreshFile (Sys.init sampleSupplier)
    (.start sampleUpload :: List.replicate 7 (.move 0 ({ uuid := 5 } : Input)))
    (fun s => (0, some (.own (.documentCreated 5 1 sampleFile))) ∈ s.hist ∧
      s.store.rows.suppliers.get? 1 = some { id := 1, userId := 10 })
    (by decide)
  obtain ⟨hcreated, hsupplier⟩ := of_decide_eq_true hP
  have hrequested : requested s.store.rows 1 20 "credit_officer" = some { id := 1, userId := 10 } := by
    rw [requested, Repo.findSupplierById, hsupplier]
  obtain ⟨-, hread, -⟩ := uploads_readBack {} Crypto.sampleGcm_lawful (fun _ _ => rfl) [] hs hcreated
  exact ⟨s, hs, hread 1 20 "credit_officer" _ _ hrequested rfl rfl fun _ => rfl⟩

/-- The same upload returns its id, and the documents service refuses it to the officer. -/
theorem upload_refused :
    let uploaded := (uploadDocument {} sampleEnv 1 10 "supplier" sampleFile "id_document" {}).play
      (fun _ => ({ uuid := 5 } : Input)) 0 sampleSupplier
    uploaded.1.toOption = some 5 ∧
      (match (downloadHandler [] sampleEnv 5 20 "credit_officer" {}).play (fun _ => ({} : Input)) 0
          { rows := { kyc := uploaded.2.1.rows } } with
        | (.ok _, _) => none
        | (.error e, _) => some e.message) = some "Invalid encrypted text format" := by
  decide

end Ris.Documents
