import Corstone.Ota.Pal

/-!
# The old credentials

Model of `xDestroyProvidedObjects` (`dev_mode_key_provisioning.c`, lines 766–847), which removes the
credentials before new ones are stored, on a PKCS#11 token where several objects may have one label
and class. `xResult` is set by the calls for every label: where those for one label fail and those
for the last one succeed, `CKR_OK` is returned.

* `destroyLoop_spec`: the calls for one label, and the objects that they leave.
* `complete_iff`: the function returns; its result can be trusted iff no failure is followed by a
  last label that succeeds.
* `deviceCert_left`: the certificate cannot be destroyed, and the result is `CKR_OK`.
-/

namespace Corstone.Provisioning

open Corstone.Lib
open Corstone.Ota (ascii)

/-! ## The token -/

/-- `CK_RV`. -/
abbrev CkRv := UInt32

def ckrOk : CkRv := 0

def ckrFunctionNotSupported : CkRv := 0x54

abbrev CkObjectHandle := UInt32

def ckInvalidHandle : CkObjectHandle := 0

/-- What an object is searched by: its label (up to the NUL) and its class. -/
structure Key where
  label : Bytes
  xClass : UInt32
  deriving DecidableEq

structure TokenObject where
  handle : CkObjectHandle
  key : Key
  deriving DecidableEq

/-- The objects of the token: each has a valid handle of its own. -/
structure Token where
  objects : List TokenObject
  nodup : (objects.map TokenObject.handle).Nodup
  valid : ∀ o ∈ objects, o.handle ≠ ckInvalidHandle

/-- How many objects have the key. -/
def Token.count (t : Token) (key : Key) : ℕ := t.objects.countP fun o => o.key = key

/-- The handle of an object with the key, chosen by `pick`. -/
def Token.handleOf (t : Token) (key : Key) (pick : ℕ) : CkObjectHandle :=
  let found := t.objects.filter fun o => o.key = key
  match found[pick % found.length]? with
  | some o => o.handle
  | none => ckInvalidHandle

/-- Without the object of the handle. -/
def Token.remove (t : Token) (handle : CkObjectHandle) : Token where
  objects := t.objects.filter fun o => o.handle ≠ handle
  nodup := t.nodup.sublist ((List.filter_sublist).map _)
  valid o ho := t.valid o (List.mem_of_mem_filter ho)

/-! ## Model of the code -/

/-- The results of the calls for one label, in their order: of the searches (and which object they
    choose), and of `C_DestroyObject`. -/
structure Results where
  find : ℕ → CkRv := fun _ => ckrOk
  pick : ℕ → ℕ := fun _ => 0
  destroy : ℕ → CkRv := fun _ => ckrOk

/-- An index of `ppxPkcsLabels` and `xClass`, with what the calls for it return. -/
structure Entry extends Results where
  key : Key

/-- The token and the variables; `calls` records the results of all calls. -/
structure Session where
  token : Token
  xResult : CkRv
  xObjectHandle : CkObjectHandle
  calls : List CkRv

/-- `xFindObjectWithLabelAndClass`: it succeeds also where there is no such object. The handle is
    set if it succeeds. -/
def Session.find (s : Session) (e : Entry) (k : ℕ) : Session :=
  { s with
    xResult := e.find k
    xObjectHandle :=
      if e.find k = ckrOk then s.token.handleOf e.key (e.pick k) else s.xObjectHandle
    calls := s.calls ++ [e.find k] }

/-- `C_DestroyObject`: each success removes the object. -/
def Session.destroy (s : Session) (e : Entry) (k : ℕ) : Session :=
  { s with
    token := if e.destroy k = ckrOk then s.token.remove s.xObjectHandle else s.token
    xResult := e.destroy k
    calls := s.calls ++ [e.destroy k] }

/-- The `while` loop (lines 789–809), behind the search `k`. At most `fuel` tests of the loop
    condition. -/
def destroyLoop (e : Entry) : ℕ → ℕ → Session → Option Session
  | 0, _, _ => none
  | fuel + 1, k, s =>
    if s.xResult = ckrOk ∧ s.xObjectHandle ≠ ckInvalidHandle then
      let s := s.destroy e k
      if s.xResult = ckrOk then destroyLoop e fuel (k + 1) (s.find e (k + 1)) else some s
    else some s

/-- The `for` loop (lines 779–815). -/
def destroyEntries (fuel : ℕ) : List Entry → Session → Option Session
  | [], s => some s
  | e :: entries, s =>
    match destroyLoop e fuel 0 (s.find e 0) with
    | none => none
    | some s =>
      if s.xResult = ckrFunctionNotSupported then some s else destroyEntries fuel entries s

/-- `xDestroyProvidedObjects`. `C_GetFunctionList` fails for a null pointer only; `xObjectHandle`
    is not initialised. -/
def xDestroyProvidedObjects (fuel : ℕ) (entries : List Entry) (token : Token)
    (xObjectHandle : CkObjectHandle) : Option Session :=
  destroyEntries fuel entries ⟨token, ckrOk, xObjectHandle, []⟩

/-- The keys of `xDestroyDefaultCryptoObjects`: the classes are `CKO_CERTIFICATE`, `CKO_PUBLIC_KEY`,
    `CKO_PRIVATE_KEY` and `CKO_PUBLIC_KEY`. -/
def defaultKeys : List Key :=
  [⟨ascii "Device Cert", 1⟩, ⟨ascii "Code Verify Key", 2⟩, ⟨ascii "Device Priv TLS Key", 3⟩,
    ⟨ascii "Device Pub TLS Key", 2⟩]

/-- The arrays of `xDestroyDefaultCryptoObjects`, where the calls for index `i` have `results i`. -/
def defaultEntries (results : ℕ → Results) : List Entry :=
  defaultKeys.mapIdx fun i key => { results i with key := key }

/-- `xDestroyDefaultCryptoObjects`. -/
def xDestroyDefaultCryptoObjects (fuel : ℕ) (results : ℕ → Results) (token : Token)
    (xObjectHandle : CkObjectHandle) : Option Session :=
  xDestroyProvidedObjects fuel (defaultEntries results) token xObjectHandle

/-! ## The purpose -/

/-- `CKR_OK` is returned only if no object with one of the labels and classes remains, and if no
    call has failed. -/
structure Complete (entries : List Entry) (s : Session) : Prop where
  noneLeft : s.xResult = ckrOk → ∀ e ∈ entries, ∀ o ∈ s.token.objects, o.key ≠ e.key
  noneMasked : s.xResult = ckrOk → ∀ rv ∈ s.calls, rv = ckrOk

/-- The results of the calls for `e` from the search `k` on, if `n` objects have its key: each
    object takes a search and a destroy, and the last search finds nothing. -/
def Entry.results (e : Entry) : ℕ → ℕ → List CkRv
  | k, 0 => [e.find k]
  | k, n + 1 => e.find k :: e.destroy k :: e.results (k + 1) n

/-- The first failure, `CKR_OK` if there is none. -/
def outcome (rvs : List CkRv) : CkRv := (rvs.find? fun rv => rv ≠ ckrOk).getD ckrOk

/-- How many of the `n` objects are left at the first failure. -/
def Entry.left (e : Entry) : ℕ → ℕ → ℕ
  | _, 0 => 0
  | k, n + 1 => if e.find k = ckrOk ∧ e.destroy k = ckrOk then e.left (k + 1) n else n + 1

/-- The outcomes of the entries, up to one for which something is not supported, if `count` objects
    have each key. -/
def outcomes : List Entry → (Key → ℕ) → List CkRv
  | [], _ => []
  | e :: entries, count =>
    let rv := outcome (e.results 0 (count e.key))
    rv :: if rv = ckrFunctionNotSupported then []
      else outcomes entries (Function.update count e.key (e.left 0 (count e.key)))

/-- If the last entry succeeds, then every one does. -/
def Unmasked (rvs : List CkRv) : Prop := rvs.getLast? = some ckrOk → ∀ rv ∈ rvs, rv = ckrOk

/-! ## The searches -/

section Searches

variable (t : Token) (key : Key)

theorem count_eq_zero_iff : t.count key = 0 ↔ ∀ o ∈ t.objects, o.key ≠ key := by
  simp [Token.count, List.countP_eq_zero]

theorem count_le_length : t.count key ≤ t.objects.length := List.countP_le_length

theorem handleOf_of_count_zero (pick : ℕ) (h : t.count key = 0) :
    t.handleOf key pick = ckInvalidHandle := by
  have hnil : (t.objects.filter fun o => o.key = key) = [] := by
    rw [count_eq_zero_iff] at h
    simpa using h
  simp [Token.handleOf, hnil]

/-- A search finds an object with the key, if there is one. -/
theorem handleOf_of_count_pos (pick : ℕ) (h : 0 < t.count key) :
    ∃ o ∈ t.objects, o.key = key ∧ t.handleOf key pick = o.handle := by
  have hlt : pick % (t.objects.filter fun o => o.key = key).length <
      (t.objects.filter fun o => o.key = key).length := by
    apply Nat.mod_lt
    rw [← List.countP_eq_length_filter]
    exact h
  have hmem := List.getElem_mem hlt
  refine ⟨_, List.mem_of_mem_filter hmem, by simpa using (List.mem_filter.mp hmem).2, ?_⟩
  simp only [Token.handleOf, List.getElem?_eq_getElem hlt]

/-- One object less. -/
theorem count_remove {o : TokenObject} (ho : o ∈ t.objects) :
    (t.remove o.handle).count key = if o.key = key then t.count key - 1 else t.count key := by
  have hobjects : (t.remove o.handle).objects = t.objects.erase o := by
    rw [(List.Nodup.of_map _ t.nodup).erase_eq_filter]
    apply List.filter_congr
    intro o' ho'
    have hinj := List.inj_on_of_nodup_map t.nodup ho' ho
    by_cases h : o' = o
    · simp [h]
    · have hne : o'.handle ≠ o.handle := fun h' => h (hinj h')
      simp [h, hne]
  rw [Token.count, hobjects, List.countP_erase, Token.count]
  by_cases h : o.key = key <;> simp [ho, h]

end Searches

/-! ## The calls for one entry -/

theorem outcome_cons (rv : CkRv) (rvs : List CkRv) :
    outcome (rv :: rvs) = if rv = ckrOk then outcome rvs else rv := by
  by_cases h : rv = ckrOk <;> simp [outcome, h]

@[simp] theorem outcome_nil : outcome [] = ckrOk := rfl

/-- What the calls for `e` do, from the search `k` on. -/
structure Cleared (e : Entry) (k : ℕ) (s s' : Session) : Prop where
  result : s'.xResult = outcome (e.results k (s.token.count e.key))
  calls : (∀ rv ∈ s'.calls, rv = ckrOk) ↔ (∀ rv ∈ s.calls, rv = ckrOk) ∧ s'.xResult = ckrOk
  count : s'.token.count = Function.update s.token.count e.key (e.left k (s.token.count e.key))

/-- A search that succeeds, if there is an object. -/
theorem find_handle (s : Session) (e : Entry) (k : ℕ) (hfind : e.find k = ckrOk)
    (h : 0 < s.token.count e.key) :
    ∃ o ∈ s.token.objects, o.key = e.key ∧ (s.find e k).xObjectHandle = o.handle := by
  simp only [Session.find, hfind, if_true]
  exact handleOf_of_count_pos s.token e.key (e.pick k) h

/-- A search that fails. -/
theorem destroyLoop_find_ne (e : Entry) (fuel k : ℕ) (s : Session) (h : e.find k ≠ ckrOk) :
    destroyLoop e (fuel + 1) k (s.find e k) = some (s.find e k) := by
  simp [destroyLoop, Session.find, h]

/-- A search that finds nothing. -/
theorem destroyLoop_none (e : Entry) (fuel k : ℕ) (s : Session)
    (h : s.token.count e.key = 0) :
    destroyLoop e (fuel + 1) k (s.find e k) = some (s.find e k) := by
  by_cases hfind : e.find k = ckrOk
  · simp [destroyLoop, Session.find, hfind, handleOf_of_count_zero _ _ _ h]
  · exact destroyLoop_find_ne e fuel k s hfind

/-- A search that finds an object: it is destroyed, and the next search follows a success. -/
theorem destroyLoop_some (e : Entry) (fuel k : ℕ) (s : Session) (hfind : e.find k = ckrOk)
    (h : 0 < s.token.count e.key) :
    destroyLoop e (fuel + 1) k (s.find e k) =
      if e.destroy k = ckrOk then
        destroyLoop e fuel (k + 1) (((s.find e k).destroy e k).find e (k + 1))
      else some ((s.find e k).destroy e k) := by
  obtain ⟨o, ho, -, hhandle⟩ := find_handle s e k hfind h
  have hresult : (s.find e k).xResult = ckrOk := hfind
  have hvalid : (s.find e k).xObjectHandle ≠ ckInvalidHandle := by
    rw [hhandle]
    exact s.token.valid o ho
  rw [destroyLoop, if_pos ⟨hresult, hvalid⟩]
  rfl

/-- A destroy that succeeds: one object less has the key. -/
theorem count_destroy (e : Entry) (k n : ℕ) (s : Session) (hfind : e.find k = ckrOk)
    (hdestroy : e.destroy k = ckrOk) (h : s.token.count e.key = n + 1) :
    ((s.find e k).destroy e k).token.count = Function.update s.token.count e.key n := by
  obtain ⟨o, ho, hkey, hhandle⟩ := find_handle s e k hfind (by omega)
  funext key
  have htoken : ((s.find e k).destroy e k).token = s.token.remove o.handle := by
    rw [← hhandle]
    simp only [Session.destroy, hdestroy, if_true]
    rfl
  rw [htoken, count_remove s.token key ho, hkey]
  by_cases hk : key = e.key
  · subst hk
    simp [h]
  · rw [if_neg (Ne.symm hk), Function.update_of_ne hk]

/-- A call that fails leaves the counts. -/
theorem update_left_of_failure (e : Entry) (k : ℕ) (count : Key → ℕ) (hpos : 0 < count e.key)
    (h : ¬ (e.find k = ckrOk ∧ e.destroy k = ckrOk)) :
    Function.update count e.key (e.left k (count e.key)) = count := by
  obtain ⟨n, hn⟩ : ∃ n, count e.key = n + 1 := ⟨count e.key - 1, by omega⟩
  rw [hn, Entry.left, if_neg h, ← hn, Function.update_eq_self]

/-- The loop returns with one test more than there are objects with the key: by induction on the
    fuel, one object for each round. -/
theorem destroyLoop_spec (e : Entry) :
    ∀ fuel k s, s.token.count e.key < fuel →
      ∃ s', destroyLoop e fuel k (s.find e k) = some s' ∧ Cleared e k s s' := by
  intro fuel
  induction fuel with
  | zero => intro k s h; omega
  | succ fuel ih =>
    intro k s h
    match hn : s.token.count e.key with
    | 0 =>
      refine ⟨_, destroyLoop_none e fuel k s hn, ?_, ?_, ?_⟩
      · rw [hn, Entry.results, outcome_cons]
        simp [Session.find]
      · simp [Session.find, or_imp, forall_and]
      · rw [hn, Entry.left, ← hn, Function.update_eq_self]
        rfl
    | n + 1 =>
      by_cases hfind : e.find k = ckrOk
      · rw [destroyLoop_some e fuel k s hfind (by omega)]
        by_cases hdestroy : e.destroy k = ckrOk
        · have hcount := count_destroy e k n s hfind hdestroy hn
          have hkey : ((s.find e k).destroy e k).token.count e.key = n := by
            rw [hcount, Function.update_self]
          obtain ⟨s', hs', hresult, hcalls, hleft⟩ :=
            ih (k + 1) ((s.find e k).destroy e k) (by omega)
          rw [if_pos hdestroy]
          refine ⟨s', hs', ?_, ?_, ?_⟩
          · rw [hresult, hn, hkey, Entry.results, outcome_cons, if_pos hfind, outcome_cons,
              if_pos hdestroy]
          · rw [hcalls]
            simp [Session.find, Session.destroy, hfind, hdestroy, or_imp]
          · rw [hleft, hkey, hcount, hn, Entry.left, if_pos ⟨hfind, hdestroy⟩,
              Function.update_idem]
        · rw [if_neg hdestroy]
          refine ⟨_, rfl, ?_, ?_, ?_⟩
          · rw [hn, Entry.results, outcome_cons, if_pos hfind, outcome_cons, if_neg hdestroy]
            rfl
          · simp [Session.find, Session.destroy, hdestroy, or_imp, forall_and]
          · rw [update_left_of_failure e k s.token.count (by omega) (by simp [hdestroy])]
            simp [Session.destroy, Session.find, hdestroy]
      · refine ⟨_, destroyLoop_find_ne e fuel k s hfind, ?_, ?_, ?_⟩
        · rw [hn, Entry.results, outcome_cons, if_neg hfind]
          rfl
        · simp [Session.find, hfind, or_imp, forall_and]
        · rw [update_left_of_failure e k s.token.count (by omega) (by simp [hfind])]
          rfl

/-- Nothing is left of an entry that succeeds. -/
theorem left_of_outcome (e : Entry) :
    ∀ n k, outcome (e.results k n) = ckrOk → e.left k n = 0 := by
  intro n
  induction n with
  | zero => intro k h; rfl
  | succ n ih =>
    intro k h
    rw [Entry.results, outcome_cons] at h
    split_ifs at h with hfind
    · rw [outcome_cons] at h
      split_ifs at h with hdestroy
      · rw [Entry.left, if_pos ⟨hfind, hdestroy⟩]
        exact ih (k + 1) h
      · exact absurd h hdestroy
    · exact absurd h hfind

theorem left_le (e : Entry) : ∀ n k, e.left k n ≤ n := by
  intro n
  induction n with
  | zero => intro k; exact le_rfl
  | succ n ih =>
    intro k
    rw [Entry.left]
    split_ifs with h
    · have := ih (k + 1)
      omega
    · exact le_rfl

/-! ## The calls for all entries -/

/-- What the calls for the entries do. -/
structure Processed (entries : List Entry) (s s' : Session) : Prop where
  result : s'.xResult = (outcomes entries s.token.count).getLastD s.xResult
  calls : (∀ rv ∈ s'.calls, rv = ckrOk) ↔
    (∀ rv ∈ s.calls, rv = ckrOk) ∧ ∀ rv ∈ outcomes entries s.token.count, rv = ckrOk
  count_le : ∀ key, s'.token.count key ≤ s.token.count key
  noneLeft : (∀ rv ∈ outcomes entries s.token.count, rv = ckrOk) →
    ∀ e ∈ entries, s'.token.count e.key = 0

/-- The calls for an entry add no object. -/
theorem Cleared.count_le {e : Entry} {k : ℕ} {s s' : Session} (h : Cleared e k s s') (key : Key) :
    s'.token.count key ≤ s.token.count key := by
  rw [h.count]
  by_cases hk : key = e.key
  · subst hk
    rw [Function.update_self]
    exact left_le e _ k
  · rw [Function.update_of_ne hk]

theorem destroyEntries_spec (fuel : ℕ) (entries : List Entry) :
    ∀ s : Session, (∀ key, s.token.count key < fuel) →
      ∃ s', destroyEntries fuel entries s = some s' ∧ Processed entries s s' := by
  induction entries with
  | nil =>
    intro s _
    exact ⟨s, rfl, rfl, by simp [outcomes], fun _ => le_rfl, by simp⟩
  | cons e entries ih =>
    intro s hfuel
    obtain ⟨s₁, hs₁, h₁⟩ := destroyLoop_spec e fuel 0 s (hfuel e.key)
    rw [destroyEntries, hs₁]
    dsimp only
    have houtcomes : outcomes (e :: entries) s.token.count = s₁.xResult ::
        if s₁.xResult = ckrFunctionNotSupported then [] else outcomes entries s₁.token.count := by
      rw [outcomes, h₁.result, h₁.count]
    by_cases hbreak : s₁.xResult = ckrFunctionNotSupported
    · -- the loop is left, and the outcome that leaves it is a failure
      rw [if_pos hbreak] at houtcomes ⊢
      refine ⟨s₁, rfl, ?_, ?_, h₁.count_le, ?_⟩
      · rw [houtcomes]
        rfl
      · rw [houtcomes, h₁.calls]
        simp
      · intro hall
        have hok : s₁.xResult = ckrOk := hall _ (by simp [houtcomes])
        rw [hbreak] at hok
        exact absurd hok (by decide)
    · rw [if_neg hbreak] at houtcomes ⊢
      obtain ⟨s₂, hs₂, h₂⟩ := ih s₁ fun key => (h₁.count_le key).trans_lt (hfuel key)
      refine ⟨s₂, hs₂, ?_, ?_, fun key => (h₂.count_le key).trans (h₁.count_le key), ?_⟩
      · rw [h₂.result, houtcomes, List.getLastD_cons]
      · rw [h₂.calls, h₁.calls, houtcomes]
        simp [and_assoc]
      · intro hall
        rw [houtcomes] at hall
        have hok : s₁.xResult = ckrOk := hall _ (by simp)
        have hrest := h₂.noneLeft fun rv hrv => hall rv (List.mem_cons_of_mem _ hrv)
        intro e' he'
        rcases List.mem_cons.mp he' with rfl | he'
        · -- no later entry adds an object with this key
          have hzero : s₁.token.count e'.key = 0 := by
            rw [h₁.count, Function.update_self]
            apply left_of_outcome
            rw [← h₁.result, hok]
          have := h₂.count_le e'.key
          omega
        · exact hrest e' he'

/-- With any fuel above the number of objects the function returns, and its `CKR_OK` says that
    nothing is left and nothing has failed iff no failure is followed by a last entry that
    succeeds. -/
theorem complete_iff (entries : List Entry) (token : Token) (xObjectHandle : CkObjectHandle)
    (fuel : ℕ) :
    ∃ s, xDestroyProvidedObjects (token.objects.length + 1 + fuel) entries token xObjectHandle =
        some s ∧
      (Complete entries s ↔ Unmasked (outcomes entries token.count)) := by
  obtain ⟨s, hs, h⟩ := destroyEntries_spec (token.objects.length + 1 + fuel) entries
    ⟨token, ckrOk, xObjectHandle, []⟩ fun key => by
      have := count_le_length token key
      dsimp only
      omega
  refine ⟨s, hs, ?_⟩
  have hcalls : (∀ rv ∈ s.calls, rv = ckrOk) ↔
      ∀ rv ∈ outcomes entries token.count, rv = ckrOk := by
    rw [h.calls]
    simp
  have hresult : s.xResult = ((outcomes entries token.count).getLast?).getD ckrOk := by
    rw [h.result, List.getLastD_eq_getLast?]
  constructor
  · intro hcomplete hlast
    exact hcalls.mp (hcomplete.noneMasked (by rw [hresult, hlast]; rfl))
  · intro hunmasked
    have hall : s.xResult = ckrOk → ∀ rv ∈ outcomes entries token.count, rv = ckrOk := by
      intro hok
      cases hlast : (outcomes entries token.count).getLast? with
      | none =>
        rw [List.getLast?_eq_none_iff.mp hlast]
        simp
      | some rv =>
        rw [hresult, hlast] at hok
        exact hunmasked (by rw [hlast, ← hok]; rfl)
    refine ⟨fun hok e he o ho => ?_, fun hok => hcalls.mpr (hall hok)⟩
    exact (count_eq_zero_iff s.token e.key).mp (h.noneLeft (hall hok) e he) o ho

/-- A device certificate. -/
def deviceCert : TokenObject := ⟨1, ⟨ascii "Device Cert", 1⟩⟩

def certToken : Token := ⟨[deviceCert], by decide, by decide⟩

/-- The certificate cannot be destroyed (`CKR_FUNCTION_FAILED`), every other call succeeds. -/
def certFails (i : ℕ) : Results := if i = 0 then { destroy := fun _ => 6 } else {}

/-- `CKR_OK` is returned and the certificate is left: what comes for the other labels masks the
    failure. -/
theorem deviceCert_left :
    ∃ s, xDestroyDefaultCryptoObjects 2 certFails certToken 0 = some s ∧
      s.xResult = ckrOk ∧ deviceCert ∈ s.token.objects ∧
      ¬ Complete (defaultEntries certFails) s := by
  have hrun : (xDestroyDefaultCryptoObjects 2 certFails certToken 0).map
      (fun s => (s.xResult, s.calls, s.token.objects)) =
        some (ckrOk, [0, 6, 0, 0, 0], [deviceCert]) := by decide
  obtain ⟨s, hs, heq⟩ := Option.map_eq_some_iff.mp hrun
  simp only [Prod.mk.injEq] at heq
  obtain ⟨hresult, hcalls, hobjects⟩ := heq
  refine ⟨s, hs, hresult, by simp [hobjects], fun h => ?_⟩
  have hmasked := h.noneMasked hresult 6 (by simp [hcalls])
  exact absurd hmasked (by decide)

end Corstone.Provisioning
