import Mathlib.Data.List.Pairwise
import Mathlib.Data.List.Nodup
import CleanSql.Proofs.Json.Value

/-!
# Objects by what is in them

Two readings are compared where the second does at least what the first does (`Leads`). An object
says the same whatever the order of its members, with unknown members and without, and with a member
that says what the record says of itself (`Value.readRecord_perm` and what follows it): fields that
are told apart by their names are put into a record one after the other in any order.
-/
namespace CleanSql

section Leads

variable {E α β γ δ : Type}

/-- Where the first gives something, the second gives something that is related to it. -/
def Leads (R : α → β → Prop) (x : Except E α) (y : Except E β) : Prop :=
  ∀ a, x = .ok a → ∃ b, y = .ok b ∧ R a b

namespace Leads

theorem refl {R : α → α → Prop} (h : ∀ a, R a a) (x : Except E α) : Leads R x x :=
  fun a hx => ⟨a, hx, h a⟩

theorem error {R : α → β → Prop} (e : E) (y : Except E β) : Leads R (.error e) y := by
  intro a ha
  cases ha

theorem trans {R : α → α → Prop} (h : ∀ a b c, R a b → R b c → R a c) {x y z : Except E α}
    (hxy : Leads R x y) (hyz : Leads R y z) : Leads R x z := by
  intro a hx
  obtain ⟨b, hy, hab⟩ := hxy a hx
  obtain ⟨c, hz, hbc⟩ := hyz b hy
  exact ⟨c, hz, h a b c hab hbc⟩

theorem bind {R : α → β → Prop} {S : γ → δ → Prop} {x : Except E α} {y : Except E β}
    {f : α → Except E γ} {g : β → Except E δ} (hxy : Leads R x y)
    (hfg : ∀ a b, R a b → Leads S (f a) (g b)) : Leads S (x.bind f) (y.bind g) := by
  intro c hc
  cases x with
  | error e => cases hc
  | ok a =>
    obtain ⟨b, rfl, hab⟩ := hxy a rfl
    exact hfg a b hab c hc

theorem map {R : α → β → Prop} {S : γ → δ → Prop} {x : Except E α} {y : Except E β} {f : α → γ}
    {g : β → δ} (hxy : Leads R x y) (hfg : ∀ a b, R a b → S (f a) (g b)) :
    Leads S (x.map f) (y.map g) := by
  intro c hc
  cases x with
  | error e => cases hc
  | ok a =>
    obtain ⟨b, rfl, hab⟩ := hxy a rfl
    cases hc
    exact ⟨g b, rfl, hfg a b hab⟩

theorem map_of_eq {R : β → β → Prop} (hR : ∀ b, R b b) {x y : Except E α} (hxy : Leads Eq x y)
    (f : α → β) : Leads R (x.map f) (y.map f) :=
  hxy.map fun a _ hab => hab ▸ hR (f a)

end Leads

end Leads

variable {N α : Type}

/-- Two fields can be put into a record in either order. -/
def Field.Commute (f g : Field N Unit α) : Prop :=
  ∀ v w a, (f.put v a).bind (g.put w) = (g.put w a).bind (f.put v)

instance : Std.Symm (Field.Commute : Field N Unit α → Field N Unit α → Prop) :=
  ⟨fun _ _ h v w a => (h w v a).symm⟩

theorem Field.Commute.of {β γ : Type} {read : N → Except Unit β} {read' : N → Except Unit γ}
    {set : β → α → α} {set' : γ → α → α} {name name' : String} {r q r' q' : Bool}
    (h : ∀ b c a, set' c (set b a) = set b (set' c a)) :
    Commute (.of name read set r q) (.of name' read' set' r' q') := by
  intro v w a
  unfold Field.of
  cases hv : read v <;> cases hw : read' w <;> simp [Except.bind, Except.map, hv, hw, h]

/-- A field keeps what holds of two records if it is put into both. -/
def Field.Respects (R : α → α → Prop) (f : Field N Unit α) : Prop :=
  ∀ v a b, R a b → Leads R (f.put v a) (f.put v b)

theorem Field.Respects.of {β : Type} {R : α → α → Prop} {read : N → Except Unit β}
    {set : β → α → α} {name : String} {r q : Bool} (h : ∀ c a b, R a b → R (set c a) (set c b)) :
    Respects R (.of name read set r q) :=
  fun v a b hab => (Leads.refl (R := Eq) (fun _ => rfl) (read v)).map fun c _ hc => hc ▸ h c a b hab

namespace RecordShape

/-- Fields have names of their own, and they do not get in each other's way. -/
structure Independent (s : RecordShape N Unit α) : Prop where
  nodup : s.fieldNames.Nodup
  commute : s.fields.Pairwise Field.Commute

variable {s : RecordShape N Unit α}

theorem mem_of_field? {name : String} {f : Field N Unit α} (h : s.field? name = some f) :
    f ∈ s.fields ∧ f.name = name :=
  ⟨List.mem_of_find?_eq_some h, by simpa using List.find?_some h⟩

theorem eq_of_name_eq (h : s.fieldNames.Nodup) {f g : Field N Unit α} (hf : f ∈ s.fields)
    (hg : g ∈ s.fields) (hname : f.name = g.name) : f = g :=
  List.inj_on_of_nodup_map h hf hg hname

theorem field?_name (h : s.fieldNames.Nodup) {f : Field N Unit α} (hf : f ∈ s.fields) :
    s.field? f.name = some f := by
  cases hfind : s.field? f.name with
  | none =>
    rw [field?, List.find?_eq_none] at hfind
    exact absurd (decide_eq_true rfl) (hfind f hf)
  | some g =>
    obtain ⟨hg, hname⟩ := mem_of_field? hfind
    rw [eq_of_name_eq h hg hf hname]

theorem Independent.commute_of_name_ne (hs : s.Independent) {f g : Field N Unit α}
    (hf : f ∈ s.fields) (hg : g ∈ s.fields) (h : f.name ≠ g.name) : f.Commute g :=
  hs.commute.forall hf hg fun hfg => h (congrArg Field.name hfg)

end RecordShape

namespace Json.Value

section Objects

variable {shape : RecordShape Value Unit α} {members members' : List (String × Value)}
  {key : String} {value value' : Value} {f : Field Value Unit α} {R : α → α → Prop}

theorem eq_of_known (h : (knownKeys shape members).Nodup) {m m' : String × Value}
    (hm : m ∈ members) (hm' : m' ∈ members) (hkey : m.1 = m'.1)
    (hknown : (shape.field? m.1).isSome) : m = m' := by
  have hkey' : (shape.field? m'.1).isSome := hkey ▸ hknown
  rw [knownKeys, List.filter_map] at h
  exact List.inj_on_of_nodup_map h (List.mem_filter.mpr ⟨hm, hknown⟩)
    (List.mem_filter.mpr ⟨hm', hkey'⟩) hkey

/-- Two members commute: unknown ones with all, known ones with those that have other keys. -/
theorem putMember_comm (hs : shape.Independent) (h : (knownKeys shape members).Nodup)
    {m m' : String × Value} (hm : m ∈ members) (hm' : m' ∈ members) (a : Except Unit α) :
    putMember shape (putMember shape a m) m' = putMember shape (putMember shape a m') m := by
  by_cases heq : m = m'
  · rw [heq]
  obtain ⟨key, value⟩ := m
  obtain ⟨key', value'⟩ := m'
  cases hf : shape.field? key with
  | none =>
    cases hg : shape.field? key' with
    | none =>
      simp only [putMember_of_unknown hf, putMember_of_unknown hg]
      split_ifs <;> rfl
    | some g =>
      simp only [putMember_of_unknown hf, putMember_of_known hg]
      split_ifs <;> rfl
  | some f =>
    cases hg : shape.field? key' with
    | none =>
      simp only [putMember_of_known hf, putMember_of_unknown hg]
      split_ifs <;> rfl
    | some g =>
      simp only [putMember_of_known hf, putMember_of_known hg]
      obtain ⟨hfmem, hfname⟩ := RecordShape.mem_of_field? hf
      obtain ⟨hgmem, hgname⟩ := RecordShape.mem_of_field? hg
      have hne : f.name ≠ g.name := by
        rw [hfname, hgname]
        exact fun hkey => heq (eq_of_known h hm hm' hkey (by simp [hf]))
      cases a with
      | error e => rfl
      | ok a => exact hs.commute_of_name_ne hfmem hgmem hne value value' a

theorem readRecord_perm (hs : shape.Independent) (h : members.Perm members') :
    readRecord shape (.record members) = readRecord shape (.record members') := by
  have hknown : (knownKeys shape members).Nodup ↔ (knownKeys shape members').Nodup :=
    ((h.map Prod.fst).filter _).nodup_iff
  have hmissing : shape.missing? (members.map Prod.fst) = none ↔
      shape.missing? (members'.map Prod.fst) = none := by
    simp only [RecordShape.missing?_eq_none_iff, (h.map Prod.fst).mem_iff]
  simp only [readRecord, hknown, hmissing]
  split_ifs with hread
  · exact h.foldl_eq' (fun m hm m' hm' a => putMember_comm hs (hknown.mpr hread.1) hm hm' a) _
  · rfl

theorem readRecord_cons_of_unknown (h : shape.field? key = none) (hwhole : value.isWhole) :
    readRecord shape (.record ((key, value) :: members)) = readRecord shape (.record members) := by
  have hmissing : shape.missing? (((key, value) :: members).map Prod.fst) = none ↔
      shape.missing? (members.map Prod.fst) = none := by
    simp only [RecordShape.missing?_eq_none_iff]
    refine forall₂_congr fun f hf => ?_
    have hne : f.name ≠ key := by
      rintro rfl
      rw [RecordShape.field?, List.find?_eq_none] at h
      exact h f hf (decide_eq_true rfl)
    rw [List.map_cons, List.mem_cons, or_iff_right hne]
  simp only [readRecord, hmissing, knownKeys_cons_of_unknown h, List.foldl_cons,
    putMember_of_unknown h, if_pos hwhole]

/-- A member that says what the record says of itself may be left out. -/
theorem leads_readRecord_of_cons (hR : ∀ a, R a a) (hs : shape.Independent)
    (hf : shape.field? key = some f) (hrequired : f.required = false)
    (hput : f.put value shape.initial = .ok shape.initial) :
    Leads R (readRecord shape (.record ((key, value) :: members)))
      (readRecord shape (.record members)) := by
  intro a h
  simp only [readRecord, knownKeys_cons_of_known hf, List.nodup_cons, List.foldl_cons,
    putMember_of_known hf] at h ⊢
  split_ifs at h with hread
  have hmissing : shape.missing? (members.map Prod.fst) = none := by
    have hall := RecordShape.missing?_eq_none_iff.mp hread.2
    refine RecordShape.missing?_eq_none_iff.mpr fun g hg hgrequired => ?_
    obtain ⟨hfmem, hfname⟩ := RecordShape.mem_of_field? hf
    have hne : g.name ≠ key := by
      intro hname
      obtain rfl := RecordShape.eq_of_name_eq hs.nodup hg hfmem (hname.trans hfname.symm)
      cases hrequired.symm.trans hgrequired
    exact (List.mem_cons.mp (hall g hg hgrequired)).resolve_left hne
  rw [if_pos ⟨hread.1.2, hmissing⟩]
  exact ⟨a, by rwa [← hput], hR a⟩

theorem leads_foldl_putMember (hresp : ∀ f ∈ shape.fields, f.Respects R)
    {a b : Except Unit α} (h : Leads R a b) :
    Leads R (members.foldl (putMember shape) a) (members.foldl (putMember shape) b) := by
  induction members generalizing a b with
  | nil => exact h
  | cons m members ih =>
    refine ih ?_
    unfold putMember
    cases hf : shape.field? m.1 with
    | none =>
      dsimp only
      split_ifs
      · exact h
      · exact .error _ _
    | some f => exact h.bind (hresp f (RecordShape.mem_of_field? hf).1 m.2)

theorem leads_readRecord_of_member (hs : shape.Independent)
    (hresp : ∀ f ∈ shape.fields, f.Respects R) (hf : shape.field? key = some f)
    (hput : ∀ a, Leads R (f.put value a) (f.put value' a)) (before after : List (String × Value)) :
    Leads R (readRecord shape (.record (before ++ (key, value) :: after)))
      (readRecord shape (.record (before ++ (key, value') :: after))) := by
  rw [readRecord_perm hs List.perm_middle, readRecord_perm hs List.perm_middle]
  simp only [readRecord, knownKeys_cons_of_known hf, List.map_cons, List.foldl_cons,
    putMember_of_known hf]
  split_ifs
  · exact leads_foldl_putMember hresp (hput shape.initial)
  · exact .error _ _

theorem leads_foldl_putItem {fields : List (Field Value Unit α)}
    (hresp : ∀ f ∈ fields, f.Respects R) (items : List Value) {a b : Except Unit α}
    (h : Leads R a b) :
    Leads R ((fields.zip items).foldl putItem a) ((fields.zip items).foldl putItem b) := by
  induction fields generalizing items a b with
  | nil => exact h
  | cons f fields ih =>
    cases items with
    | nil => exact h
    | cons item items =>
      obtain ⟨hf, hfields⟩ := List.forall_mem_cons.mp hresp
      exact ih hfields items (h.bind (hf item))

theorem leads_foldl_putItem_of_item {fields : List (Field Value Unit α)}
    (hresp : ∀ f ∈ fields, f.Respects R) {before : List Value} (after : List Value)
    (hf : fields[before.length]? = some f)
    (hput : ∀ a, Leads R (f.put value a) (f.put value' a)) (a : Except Unit α) :
    Leads R ((fields.zip (before ++ value :: after)).foldl putItem a)
      ((fields.zip (before ++ value' :: after)).foldl putItem a) := by
  induction fields generalizing before a with
  | nil => cases hf
  | cons g fields ih =>
    obtain ⟨-, hfields⟩ := List.forall_mem_cons.mp hresp
    cases before with
    | nil =>
      cases hf
      refine leads_foldl_putItem hfields after ?_
      cases a with
      | error e => exact .error e _
      | ok a => exact hput a
    | cons item before => exact ih hfields hf (putItem a (g, item))

/-- What is said by a row follows what is said by one of its items. -/
theorem leads_readRecord_of_item (hresp : ∀ f ∈ shape.fields, f.Respects R)
    {before : List Value} (after : List Value) (hf : shape.fields[before.length]? = some f)
    (hput : ∀ a, Leads R (f.put value a) (f.put value' a)) :
    Leads R (readRecord shape (.list (before ++ value :: after)))
      (readRecord shape (.list (before ++ value' :: after))) := by
  have hfits : RowFits shape.fields (before ++ value :: after) ↔
      RowFits shape.fields (before ++ value' :: after) := by
    simp only [RowFits, List.length_append, List.length_cons]
  simp only [readRecord, hfits]
  split_ifs
  · exact leads_foldl_putItem_of_item hresp after hf hput _
  · exact .error _ _

end Objects

section Lists

variable {α β : Type} {read : Value → Except Unit α} {R : α → α → Prop}

theorem leads_readList_of_item (hR : ∀ a, R a a) {value value' : Value}
    (h : Leads R (read value) (read value')) (before after : List Value) :
    Leads (List.Forall₂ R) (readList read (.list (before ++ value :: after)))
      (readList read (.list (before ++ value' :: after))) := by
  have hrefl : ∀ as : List α, List.Forall₂ R as as :=
    fun as => List.forall₂_same.mpr fun a _ => hR a
  induction before with
  | nil =>
    simp only [readList, List.nil_append, List.mapM_cons]
    exact h.bind fun a b hab => (Leads.refl hrefl _).map fun as bs hs => .cons hab hs
  | cons item before ih =>
    simp only [readList, List.cons_append, List.mapM_cons]
    exact (Leads.refl (R := Eq) (fun _ => rfl) (read item)).bind fun a b hab =>
      ih.map fun as bs hs => .cons (hab ▸ hR a) hs

theorem insertEntry_of_notMem {key : String} {done : List (String × α)} (a : α)
    (h : key ∉ done.map Prod.fst) : insertEntry key a done = done ++ [(key, a)] := by
  induction done with
  | nil => rfl
  | cons entry done ih =>
    obtain ⟨hne, hrest⟩ := not_or.mp (mt List.mem_cons.mpr h)
    rw [insertEntry, if_neg (Ne.symm hne), ih hrest, List.cons_append]

def readEntry (read : Value → Except Unit α) (m : String × Value) : Except Unit (String × α) :=
  (read m.2).map fun a => (m.1, a)

/-- The entries of a map whose keys are different are its members one after the other. -/
theorem foldlM_putEntry {members : List (String × Value)} {done : List (String × α)}
    (h : (done.map Prod.fst ++ members.map Prod.fst).Nodup) :
    members.foldlM (putEntry read) done = (members.mapM (readEntry read)).map (done ++ ·) := by
  induction members generalizing done with
  | nil => exact congrArg Except.ok (List.append_nil done).symm
  | cons m members ih =>
    rw [List.foldlM_cons, List.mapM_cons, putEntry, readEntry]
    have hnew : m.1 ∉ done.map Prod.fst := by
      rw [List.map_cons] at h
      exact fun hm => List.disjoint_of_nodup_append h hm List.mem_cons_self
    cases read m.2 with
    | error e => rfl
    | ok a =>
      have hrest : ((done ++ [(m.1, a)]).map Prod.fst ++ members.map Prod.fst).Nodup := by
        simpa using h
      change (members.foldlM (putEntry read) (insertEntry m.1 a done)) = _
      rw [insertEntry_of_notMem a hnew, ih hrest]
      cases members.mapM (readEntry read) with
      | error e => rfl
      | ok entries => exact congrArg Except.ok (List.append_assoc done _ entries)

theorem readEntries_of_nodup {members : List (String × Value)}
    (h : (members.map Prod.fst).Nodup) :
    readEntries read (.record members) = members.mapM (readEntry read) := by
  have hall : members.foldlM (putEntry read) [] = (members.mapM (readEntry read)).map ([] ++ ·) :=
    foldlM_putEntry h
  rw [readEntries, hall]
  cases members.mapM (readEntry read) <;> rfl

theorem leads_mapM_of_perm {γ δ : Type} {f : γ → Except Unit δ} {xs ys : List γ}
    (h : xs.Perm ys) : Leads List.Perm (xs.mapM f) (ys.mapM f) := by
  induction h with
  | nil => exact Leads.refl List.Perm.refl _
  | cons x _ ih =>
    rw [List.mapM_cons, List.mapM_cons]
    exact (Leads.refl (R := Eq) (fun _ => rfl) (f x)).bind fun a b hab =>
      ih.map fun as bs hs => hab ▸ hs.cons a
  | swap x y xs =>
    intro as h
    simp only [List.mapM_cons] at h ⊢
    cases hx : f x <;> cases hy : f y <;> cases hxs : xs.mapM f <;>
      simp [hx, hy, hxs, bind, Except.bind, pure, Except.pure] at h ⊢
    rw [← h]
    exact List.Perm.swap ..
  | trans _ _ ih ih' => exact Leads.trans (R := List.Perm) (fun _ _ _ h h' => h.trans h') ih ih'

/-- A map is the same with its members in another order. -/
theorem leads_readEntries_of_perm {members members' : List (String × Value)}
    (hnodup : (members.map Prod.fst).Nodup) (h : members.Perm members') :
    Leads List.Perm (readEntries read (.record members))
      (readEntries read (.record members')) := by
  rw [readEntries_of_nodup hnodup, readEntries_of_nodup ((h.map Prod.fst).nodup_iff.mp hnodup)]
  exact leads_mapM_of_perm h

end Lists

end Json.Value

end CleanSql
