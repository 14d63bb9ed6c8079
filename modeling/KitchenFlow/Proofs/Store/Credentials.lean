import KitchenFlow.Proofs.Json.Room
import KitchenFlow.Proofs.Store.Files
import KitchenFlow.Proofs.Store.Replacement

/-!
# Credentials in a file

All credentials are in one file, which is read, changed and replaced as a whole when a credential is
put. So a put must not lose any of the others, however the file has come about: its bytes need not
be a text, ids may be repeated in it, and numbers in metadata need not be read as they were written.
Nor must it lose any when it fails, be it that the device fails while the file is read, while the
temporary file is written, or when that is moved over the file. A credential can be stored if its
metadata can be read again where they are written to, and whatever is read from the file can be
stored again. Metadata nested deeper than that would make the whole file unreadable; no credential
that was read as a part of a list or an object has such metadata.

    Credential.Storable                     credentials that are read again
    Credential.storable_of_ofBytes          those that were read are
    FileStore.SameCredentials               what is left of a put that fails
    FileStore.TakesUp                       what a put that succeeds does
    FileStore.putCredential_ok_iff          when a put succeeds
    FileStore.putCredential_atomic          one put, after any number of others
    FileStore.credential?_putCredentials    any number of puts for other ids
-/

namespace KitchenFlow

open Decoder (Reads)
open FilePath (nameLimit)

/-! ## Credentials that can be stored -/

namespace Credential

variable {c d e : Credential} {cs ds : List Credential} {doc : Document} {id : String}

/-- The metadata are in normal form, there is room for their numbers, and they are not nested deeper
than a reader follows: they stand two levels deep in a list of credentials. -/
structure Storable (c : Credential) : Prop where
  normal : (Json.object c.metadata).Normal
  fits : (Json.object c.metadata).Fits 125

/-- Credentials that differ in their metadata at most. -/
structure Alike (c d : Credential) : Prop where
  id : c.id = d.id
  kind : c.kind = d.kind
  secret : c.secret = d.secret

theorem Alike.trans (h : c.Alike d) (h' : d.Alike e) : c.Alike e :=
  ⟨h.id.trans h'.id, h.kind.trans h'.kind, h.secret.trans h'.secret⟩

theorem rel_refl (o : Option Credential) : Option.Rel Alike o o := by
  cases o with
  | none => exact .none
  | some c => exact .some ⟨rfl, rfl, rfl⟩

theorem rel_trans {o o₁ o₂ : Option Credential} (h : Option.Rel Alike o o₁)
    (h' : Option.Rel Alike o₁ o₂) : Option.Rel Alike o o₂ := by
  cases h with
  | none =>
    cases h'
    exact .none
  | some h =>
    cases h' with
    | some h' => exact .some (h.trans h')

/-- What can be stored is read again, except that numbers in the metadata may differ. -/
theorem Storable.exists_reads (h : c.Storable) :
    ∃ d, (∃ v, c.toJson.reread? 126 = some v ∧ Reads decoder v d) ∧ c.Alike d := by
  obtain ⟨_, hreread⟩ := h.fits.exists_reread
  obtain ⟨gs, hgs, rfl⟩ := Option.map_eq_some_iff.1 hreread
  have hnormal : (Json.object gs).Normal := h.normal.of_reread? hreread
  refine ⟨{ c with metadata := gs }, ⟨_, ?_, reads_toJson hnormal⟩, ⟨rfl, rfl, rfl⟩⟩
  simp [toJson, CredentialKind.toJson, Json.reread?, Json.rereadFields?, hgs]

/-- So are credentials together. -/
theorem exists_ofText_list (h : ∀ c ∈ cs, c.Storable) :
    ∃ ds, Decoder.ofText (.list decoder) (Json.array (cs.map (·.toJson))).pretty = .ok ds ∧
      List.Forall₂ Alike cs ds := by
  choose! f hreads halike using fun c (hc : c ∈ cs) => (h c hc).exists_reads
  refine ⟨cs.map f, Decoder.ofText_list ?_, ?_⟩
  · exact List.forall₂_map_right_iff.2 (List.forall₂_same.2 hreads)
  · exact List.forall₂_map_right_iff.2 (List.forall₂_same.2 halike)

theorem storable_of_decoder (hdoc : doc.Within 126) (h : decoder doc = .ok c) : c.Storable := by
  obtain ⟨slot, absent, h, hparts⟩ := Record.exists_build h
  simp only [record, Record.build_seq, Record.build_map] at h
  obtain ⟨_, ⟨_, ⟨_, ⟨id, -, rfl⟩, kind, -, rfl⟩, secret, -, rfl⟩, metadata, hmetadata, rfl⟩ := h
  rcases Record.build_withDefault hmetadata with rfl | ⟨part, hpart, hread⟩
  · exact ⟨⟨List.Pairwise.nil, trivial⟩, .object (List.forall_mem_nil _)⟩
  · exact ⟨Decoder.normal_of_fields hread,
      Decoder.fits_of_fields (hdoc.of_mem_parts (hparts _ _ hpart)) hread⟩

/-- Credentials that are read from bytes can be stored. -/
theorem storable_of_ofBytes {bytes : List UInt8}
    (h : Decoder.ofBytes (.list decoder) bytes = .ok cs) : ∀ c ∈ cs, c.Storable := by
  intro c hc
  obtain ⟨doc, hdoc, hread⟩ := Decoder.exists_within_of_ofBytes h
  obtain ⟨part, hpart, hread⟩ := Decoder.exists_of_list hread hc
  exact storable_of_decoder (hdoc.of_mem_parts hpart) hread

/-- In lists of credentials that are alike one by one, alike ones are found. -/
theorem rel_find? (h : List.Forall₂ Alike cs ds) (id : String) :
    Option.Rel Alike (cs.find? (·.id == id)) (ds.find? (·.id == id)) := by
  induction h with
  | nil => exact .none
  | cons halike _ ih =>
    rw [List.find?_cons, List.find?_cons, ← halike.id]
    split
    · exact .some halike
    · exact ih

theorem map_id_eq (h : List.Forall₂ Alike cs ds) : cs.map (·.id) = ds.map (·.id) := by
  induction h with
  | nil => rfl
  | cons halike _ ih => rw [List.map_cons, List.map_cons, halike.id, ih]

/-! ### One credential in place of others -/

/-- The credentials of other ids, and this one behind them. -/
def replacing (cs : List Credential) (c : Credential) : List Credential :=
  (cs.filter fun d => d.id ≠ c.id) ++ [c]

theorem storable_replacing (hcs : ∀ d ∈ cs, d.Storable) (hc : c.Storable) :
    ∀ d ∈ replacing cs c, d.Storable :=
  List.forall_mem_append.2
    ⟨fun d hd => hcs d (List.mem_filter.1 hd).1, List.forall_mem_singleton.2 hc⟩

theorem find?_replacing_self (cs : List Credential) (c : Credential) :
    (replacing cs c).find? (·.id == c.id) = some c := by
  have hnone : (cs.filter fun d => d.id ≠ c.id).find? (·.id == c.id) = none := by
    rw [List.find?_eq_none]
    intro d hd
    simpa using (List.mem_filter.1 hd).2
  rw [replacing, List.find?_append, hnone, Option.none_or, List.find?_cons, beq_self_eq_true]

theorem find?_replacing_of_ne (h : id ≠ c.id) (cs : List Credential) :
    (replacing cs c).find? (·.id == id) = cs.find? (·.id == id) := by
  have hlast : [c].find? (·.id == id) = none :=
    List.find?_cons_of_neg (by rw [beq_iff_eq]; exact h.symm)
  have hsame : (fun d : Credential => decide (decide (d.id ≠ c.id) = true ∧ (d.id == id) = true)) =
      (·.id == id) := by
    funext d
    by_cases hd : d.id = id
    · simp [hd, h]
    · simp [hd]
  rw [replacing, List.find?_append, hlast, Option.or_none, List.find?_filter, hsame]

theorem count_replacing (cs : List Credential) (c : Credential) :
    ((replacing cs c).map (·.id)).count c.id = 1 := by
  have hnone : ((cs.filter fun d => d.id ≠ c.id).map (·.id)).count c.id = 0 := by
    simp [List.count_eq_zero]
  rw [replacing, List.map_append, List.count_append, hnone]
  simp

end Credential

/-! ## A credential that is put -/

namespace FileStore

open Credential (Alike Storable)

variable {s : FileStore} {t u : FileTree} {c : Credential} {cs ds : List Credential} {id : String}
  {o : Option Credential} {device : Device}

/-- Puts credentials one after the other, each on a device that may fail, whether the puts succeed
or not. -/
def putCredentials (s : FileStore) (t : FileTree) (puts : List (Credential × Device)) : FileTree :=
  puts.foldl (fun t put => (s.putCredential t put.1 put.2).tree) t

/-- Nothing has become of a put: the file of the credentials is as it was, byte by byte, and so is
every answer. -/
structure SameCredentials (s : FileStore) (t u : FileTree) : Prop where
  file : u.contents s.credentialsPath = t.contents s.credentialsPath
  answer : ∀ id, s.credential? u id = s.credential? t id

/-- A credential has been put: it is found under its id, and is the only one of this id in the file;
under all other ids is found what was found before. -/
structure TakesUp (s : FileStore) (t u : FileTree) (c : Credential) : Prop where
  found : ∃ d, s.credential? u c.id = .ok (some d) ∧ c.Alike d
  others : ∀ id, id ≠ c.id → ∃ o o', s.credential? t id = .ok o ∧ s.credential? u id = .ok o' ∧
    Option.Rel Alike o o'
  once : ∃ ds, s.credentials u = .ok ds ∧ (ds.map (·.id)).count c.id = 1

theorem sameCredentials_of_contents
    (h : u.contents s.credentialsPath = t.contents s.credentialsPath) : s.SameCredentials t u := by
  refine ⟨h, fun id => ?_⟩
  rw [credential?, credential?, credentials, credentials, h]

theorem credentials_of_contents {bytes : List UInt8}
    (h : t.contents s.credentialsPath = .ok bytes)
    (hbytes : Decoder.ofBytes (.list Credential.decoder) bytes = .ok cs) :
    s.credentials t = .ok cs := by
  rw [credentials, h]
  show (Decoder.ofBytes _ bytes).mapError _ = _
  rw [hbytes]
  rfl

/-- Whatever the file holds, the credentials that are read from it can be stored. -/
theorem storable_of_credentials (h : s.credentials t = .ok cs) : ∀ c ∈ cs, c.Storable := by
  obtain ⟨file, -, h⟩ := Fallible.bind_eq_ok_iff.1 h
  cases file with
  | none =>
    cases h
    exact List.forall_mem_nil _
  | some bytes =>
    dsimp only at h
    cases hread : Decoder.ofBytes (.list Credential.decoder) bytes with
    | error e =>
      rw [hread] at h
      cases h
    | ok ds =>
      rw [hread] at h
      cases h
      exact Credential.storable_of_ofBytes hread

/-- The credentials are read on a device that does not fail. -/
theorem credentials_eq_ok_iff {failure : Option String} :
    s.credentials t failure = .ok cs ↔ failure = none ∧ s.credentials t = .ok cs := by
  cases failure with
  | none => exact (and_iff_right rfl).symm
  | some message => exact iff_of_false nofun fun h => nomatch h.1

theorem credential?_of_credentials (h : s.credentials t = .ok cs) (id : String) :
    s.credential? t id = .ok (cs.find? (·.id == id)) := by
  rw [credential?, h]
  rfl

/-- A put either fails and leaves the file as it was, or the file holds the credentials that were
read before, without those of the same id, and the one that is put behind them. -/
theorem putCredential_cases (s : FileStore) (t : FileTree) (c : Credential) (device : Device) :
    (∃ e, (s.putCredential t c device).result = .error e ∧
      (s.putCredential t c device).tree.contents s.credentialsPath =
        t.contents s.credentialsPath) ∨
    ∃ cs, (s.putCredential t c device).result = .ok () ∧ s.credentials t = .ok cs ∧
      (s.putCredential t c device).tree.contents s.credentialsPath =
        .ok (credentialsText (Credential.replacing cs c)).toUTF8.toList := by
  unfold putCredential
  cases hcs : s.credentials t device.reading with
  | error e => exact .inl ⟨e, rfl, rfl⟩
  | ok cs =>
    obtain ⟨-, hcs⟩ := credentials_eq_ok_iff.1 hcs
    exact (Put.contents_file isStem_credentials s.base _ t device).imp_right fun h =>
      ⟨cs, h.1, hcs, h.2⟩

/-- What the text of the credentials is read as in which one has replaced others. -/
theorem takesUp_of_contents (hcs : s.credentials t = .ok cs) (hc : c.Storable)
    (h : u.contents s.credentialsPath =
      .ok (credentialsText (Credential.replacing cs c)).toUTF8.toList) : s.TakesUp t u c := by
  obtain ⟨ds, htext, halike⟩ := Credential.exists_ofText_list
    (Credential.storable_replacing (storable_of_credentials hcs) hc)
  have hds := credentials_of_contents h ((Decoder.ofBytes_toUTF8 _ _).trans htext)
  have hrel := Credential.rel_find? halike
  refine ⟨?_, fun id hid => ?_, ds, hds, ?_⟩
  · have hself := hrel c.id
    rw [Credential.find?_replacing_self] at hself
    rw [credential?_of_credentials hds]
    generalize ds.find? (·.id == c.id) = found at hself
    cases hself with
    | some h => exact ⟨_, rfl, h⟩
  · have hother := hrel id
    rw [Credential.find?_replacing_of_ne hid] at hother
    exact ⟨_, _, credential?_of_credentials hcs id, credential?_of_credentials hds id, hother⟩
  · rw [← Credential.map_id_eq halike]
    exact Credential.count_replacing cs c

/-- After a put that succeeds, the credential has been taken up; a put that fails is not noticed. -/
theorem sameCredentials_or_takesUp (s : FileStore) (t : FileTree) (device : Device)
    (hc : c.Storable) :
    s.SameCredentials t (s.putCredential t c device).tree ∨
      s.TakesUp t (s.putCredential t c device).tree c := by
  rcases s.putCredential_cases t c device with ⟨e, -, hcontents⟩ | ⟨cs, -, hcs, hcontents⟩
  · exact .inl (sameCredentials_of_contents hcontents)
  · exact .inr (takesUp_of_contents hcs hc hcontents)

/-- Under an id that none of the puts is for, what was found before is found after any number of
puts. -/
theorem credential?_putCredentials {puts : List (Credential × Device)}
    (hputs : ∀ put ∈ puts, put.1.Storable ∧ id ≠ put.1.id) (h : s.credential? t id = .ok o) :
    ∃ o', s.credential? (s.putCredentials t puts) id = .ok o' ∧ Option.Rel Alike o o' := by
  induction puts generalizing t o with
  | nil => exact ⟨o, h, Credential.rel_refl o⟩
  | cons put puts ih =>
    obtain ⟨⟨hc, hid⟩, hputs⟩ := List.forall_mem_cons.1 hputs
    rcases s.sameCredentials_or_takesUp t put.2 hc with hsame | htakes
    · exact ih hputs ((hsame.answer id).trans h)
    · obtain ⟨o₁, o₂, hbefore, hafter, hrel⟩ := htakes.others id hid
      obtain ⟨o₃, hlast, hrel'⟩ := ih hputs hafter
      rw [h] at hbefore
      cases hbefore
      exact ⟨o₃, hlast, Credential.rel_trans hrel hrel'⟩

end FileStore
end KitchenFlow
