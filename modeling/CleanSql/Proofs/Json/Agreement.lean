import CleanSql.Proofs.Json.Value

/-!
# Documents are read as their values

Every reader of nodes comes to the same as that of values, so that a table is decoded from a node as
from what the node says.
-/
namespace CleanSql.Json.Node

def Says (n : Node) (v : Value) : Prop := n.Sound ∧ n.value = v

def SaysMember (m : Quoted × Nat × Node × Nat) (r : String × Value) : Prop :=
  m.1.read = .ok r.1 ∧ m.2.2.1.Says r.2

def HasUnreadKey (members : List (Quoted × Nat × Node × Nat)) : Prop :=
  ∃ m ∈ members, ∃ f, m.1.read = .error f

theorem not_hasUnreadKey_nil : ¬ HasUnreadKey [] := by
  rintro ⟨m, hm, -⟩
  cases hm

theorem HasUnreadKey.of_cons {m : Quoted × Nat × Node × Nat}
    {members : List (Quoted × Nat × Node × Nat)} (h : HasUnreadKey (m :: members)) {k : String}
    (hkey : m.1.read = .ok k) : HasUnreadKey members := by
  obtain ⟨m', hm, f, hf⟩ := h
  obtain rfl | hm := List.mem_cons.mp hm
  · cases hkey.symm.trans hf
  · exact ⟨m', hm, f, hf⟩

theorem says_items {items : List Node} (h : SoundItems items) :
    List.Forall₂ Says items (valueItems items) := by
  induction items with
  | nil => exact .nil
  | cons item rest ih => exact .cons ⟨h.1, rfl⟩ (ih h.2)

theorem says_members {members : List (Quoted × Nat × Node × Nat)} {read : List (String × Value)}
    (h : SoundMembers members) (hread : (valueMembers members).mapM Value.keyed? = some read) :
    List.Forall₂ SaysMember members read := by
  rw [Value.mapM_keyed?_eq_some_iff] at hread
  induction members generalizing read with
  | nil =>
    rw [List.map_eq_nil_iff.mp hread.symm]
    exact .nil
  | cons m rest ih =>
    obtain ⟨key, behind, value, next⟩ := m
    cases read with
    | nil => cases hread
    | cons r read =>
      obtain ⟨hm, hrest⟩ := List.cons.inj hread
      obtain ⟨hkey, hvalue⟩ := Prod.mk.inj hm
      refine .cons ⟨toOption_eq_some_iff.mp ?_, h.1.2, hvalue⟩ (ih h.2 hrest)
      rw [key.toOption_read h.1.1, hkey]
      rfl

theorem hasUnreadKey_of_mapM_keyed? {members : List (Quoted × Nat × Node × Nat)}
    (h : SoundMembers members) (hread : (valueMembers members).mapM Value.keyed? = none) :
    HasUnreadKey members := by
  induction members with
  | nil => cases hread
  | cons m rest ih =>
    obtain ⟨key, behind, value, next⟩ := m
    cases hkey : key.read with
    | error f => exact ⟨_, List.mem_cons_self, f, hkey⟩
    | ok s =>
      rw [valueMembers, key.value_of_read h.1.1 hkey, List.mapM_cons] at hread
      have hrest : (valueMembers rest).mapM Value.keyed? = none := by
        cases hcase : (valueMembers rest).mapM Value.keyed? with
        | none => rfl
        | some read =>
          rw [hcase] at hread
          cases hread
      obtain ⟨m, hm, hf⟩ := ih h.2 hrest
      exact ⟨m, List.mem_cons_of_mem _ hm, hf⟩

/-- An object says what its members do if all keys are read and it comes to its end. -/
theorem value_record {members : List (Quoted × Nat × Node × Nat)} (h : SoundMembers members)
    (start : Nat) (ending : Ending) :
    (∃ ms stop, ending = .closed stop ∧ (record start members ending).value = .record ms ∧
      List.Forall₂ SaysMember members ms) ∨
    ((record start members ending).value = .unread ∨
        (record start members ending).value = .broken) ∧
      ((∃ stop, ending = .closed stop) → HasUnreadKey members) := by
  cases ending with
  | closed stop =>
    cases hread : (valueMembers members).mapM Value.keyed? with
    | some ms =>
      refine .inl ⟨ms, stop, rfl, ?_, says_members h hread⟩
      simp only [value, Value.ofMembers, hread]
    | none =>
      refine .inr ⟨?_, fun _ => hasUnreadKey_of_mapM_keyed? h hread⟩
      simp only [value, Value.ofMembers, hread]
      split_ifs <;> simp
  | _ => exact .inr ⟨.inr rfl, by simp⟩

section Leaves

theorem readText_alike : ReadAlike Says readText Value.readText := by
  rintro n _ ⟨hsound, rfl⟩
  cases n with
  | text q => exact q.toOption_read hsound
  | number _ _ read skip => cases skip <;> cases read <;> rfl
  | list _ _ ending => cases ending <;> rfl
  | record start members ending =>
    rcases value_record hsound start ending with ⟨_, _, -, h, -⟩ | ⟨h | h, -⟩ <;> rw [h] <;> rfl
  | _ => rfl

theorem readFlag_alike : ReadAlike Says readFlag Value.readFlag := by
  rintro n _ ⟨hsound, rfl⟩
  cases n with
  | text q =>
    rcases q.value_cases with ⟨_, h⟩ | h | h <;> rw [value, h] <;> rfl
  | number _ _ read skip => cases skip <;> cases read <;> rfl
  | list _ _ ending => cases ending <;> rfl
  | record start members ending =>
    rcases value_record hsound start ending with ⟨_, _, -, h, -⟩ | ⟨h | h, -⟩ <;> rw [h] <;> rfl
  | _ => rfl

theorem readIndex_alike : ReadAlike Says readIndex Value.readIndex := by
  rintro n _ ⟨hsound, rfl⟩
  cases n with
  | text q =>
    rcases q.value_cases with ⟨_, h⟩ | h | h <;> rw [value, h] <;> rfl
  | number _ _ read skip =>
    cases read with
    | error f => cases skip <;> rfl
    | ok n =>
      obtain rfl : skip = none := hsound n rfl
      cases n <;> rfl
  | list _ _ ending => cases ending <;> rfl
  | record start members ending =>
    rcases value_record hsound start ending with ⟨_, _, -, h, -⟩ | ⟨h | h, -⟩ <;> rw [h] <;> rfl
  | _ => rfl

theorem toOption_choose {α : Type} (choices : List (String × α)) (name : String) (stop : Nat) :
    (choose choices name stop).toOption = (Value.choose choices name).toOption := by
  unfold choose Value.choose
  cases choices.lookup name <;> rfl

theorem readChoice_cons {α : Type} {choices : List (String × α)} {key : Quoted} {k : String}
    (h : key.read = .ok k) (start behind : Nat) (value : Node) (next : Nat)
    (rest : List (Quoted × Nat × Node × Nat)) (ending : Ending) :
    readChoice choices (record start ((key, behind, value, next) :: rest) ending) =
      choose choices k key.stop >>= fun a =>
        match value with
        | null _ _ =>
          match rest, ending with
          | [], .closed _ => .ok a
          | [], .ended p => .error ⟨.endInRecord, p⟩
          | _, _ => .error ⟨.noValue, next⟩
        | n => .error (n.unexpected "unit") := by
  rw [readChoice, h]
  rfl

theorem toOption_readChoice_alike {α : Type} (choices : List (String × α))
    {members : List (Quoted × Nat × Node × Nat)} {ms : List (String × Value)}
    (hsaid : List.Forall₂ SaysMember members ms) (start stop : Nat) :
    (readChoice choices (record start members (.closed stop))).toOption =
      (Value.readChoice choices (.record ms)).toOption := by
  cases hsaid with
  | nil => rfl
  | @cons m r members ms hm hrest =>
    obtain ⟨key, behind, value, next⟩ := m
    obtain ⟨k, v⟩ := r
    obtain ⟨hkey, -, rfl⟩ := hm
    rw [readChoice_cons hkey, toOption_bind, toOption_choose]
    cases hrest with
    | cons => cases value <;> exact Option.bind_fun_none _
    | nil =>
      by_cases hnull : value.value.isNull
      · obtain ⟨_, _, rfl⟩ := eq_null_of_isNull_value hnull
        exact Option.bind_fun_some _
      · have hfails : Value.readChoice choices (.record [(k, value.value)]) = .error () :=
          if_neg hnull
        refine Eq.trans ?_ (congrArg Except.toOption hfails).symm
        cases value with
        | null => exact absurd rfl hnull
        | _ => exact Option.bind_fun_none _

theorem toOption_readChoice_error {α : Type} (choices : List (String × α))
    {members : List (Quoted × Nat × Node × Nat)} {ending : Ending}
    (h : (∃ stop, ending = .closed stop) → HasUnreadKey members) (start : Nat) :
    (readChoice choices (record start members ending)).toOption = none := by
  cases members with
  | nil => cases ending <;> rfl
  | cons m members =>
    obtain ⟨key, behind, value, next⟩ := m
    cases hkey : key.read with
    | error f =>
      rw [readChoice, hkey]
      rfl
    | ok k =>
      rw [readChoice_cons hkey, toOption_bind]
      cases value with
      | null =>
        cases members with
        | cons m members => exact Option.bind_fun_none _
        | nil =>
          cases ending with
          | closed stop => exact absurd ((h ⟨stop, rfl⟩).of_cons hkey) not_hasUnreadKey_nil
          | _ => exact Option.bind_fun_none _
      | _ => exact Option.bind_fun_none _

theorem readChoice_alike {α : Type} (choices : List (String × α)) :
    ReadAlike Says (readChoice choices) (Value.readChoice choices) := by
  rintro n _ ⟨hsound, rfl⟩
  cases n with
  | text q =>
    rw [readChoice, toOption_bind, q.toOption_read hsound, value]
    rcases q.value_cases with ⟨name, hq⟩ | hq | hq <;> rw [hq]
    · exact toOption_choose choices name q.stop
    · rfl
    · rfl
  | number _ _ read skip => cases skip <;> cases read <;> rfl
  | list _ _ ending => cases ending <;> rfl
  | record start members ending =>
    rcases value_record hsound start ending with ⟨ms, stop, rfl, hvalue, hsaid⟩ | ⟨hvalue, herror⟩
    · rw [hvalue, toOption_readChoice_alike choices hsaid]
    · rw [toOption_readChoice_error choices herror]
      rcases hvalue with hvalue | hvalue <;> rw [hvalue] <;> rfl
  | _ => rfl

end Leaves

section Lists

variable {α : Type} {read : Node → Except Fault α} {read' : Value → Except Unit α}

theorem toOption_mapM_alike (h : ReadAlike Says read read') {items : List Node} {vs : List Value}
    (hsaid : List.Forall₂ Says items vs) :
    (items.mapM read).toOption = (vs.mapM read').toOption := by
  induction hsaid with
  | nil => rfl
  | @cons n v items vs hn _ ih =>
    rw [List.mapM_cons, List.mapM_cons, toOption_bind, toOption_bind, h hn]
    refine congrArg _ (funext fun a => ?_)
    rw [toOption_bind, toOption_bind, ih]
    rfl

theorem readList_alike (h : ReadAlike Says read read') :
    ReadAlike Says (readList read) (Value.readList read') := by
  rintro n _ ⟨hsound, rfl⟩
  cases n with
  | text q =>
    rcases q.value_cases with ⟨_, h⟩ | h | h <;> rw [value, h] <;> rfl
  | number _ _ read skip => cases skip <;> cases read <;> rfl
  | list _ items ending =>
    rw [readList, toOption_bind, toOption_mapM_alike h (says_items hsound)]
    cases ending with
    | closed stop => exact Option.bind_fun_some _
    | _ => exact Option.bind_fun_none _
  | record start members ending =>
    rcases value_record hsound start ending with ⟨_, _, -, h, -⟩ | ⟨h | h, -⟩ <;> rw [h] <;> rfl
  | _ => rfl

theorem readMembers_cons {key : Quoted} {k : String} (h : key.read = .ok k)
    (done : List (String × α)) (behind : Nat) (value : Node) (next : Nat)
    (rest : List (Quoted × Nat × Node × Nat)) :
    readMembers read done ((key, behind, value, next) :: rest) =
      read value >>= fun a => readMembers read (insertEntry k a done) rest := by
  rw [readMembers, h]
  rfl

theorem toOption_readMembers_alike (h : ReadAlike Says read read')
    {members : List (Quoted × Nat × Node × Nat)} {ms : List (String × Value)}
    (hsaid : List.Forall₂ SaysMember members ms) (done : List (String × α)) :
    (readMembers read done members).toOption =
      (ms.foldlM (Value.putEntry read') done).toOption := by
  induction hsaid generalizing done with
  | nil => rfl
  | @cons m r members ms hm _ ih =>
    obtain ⟨key, behind, value, next⟩ := m
    rw [readMembers_cons hm.1, toOption_bind, h hm.2, List.foldlM_cons, toOption_bind,
      Value.putEntry, toOption_map, Option.bind_map]
    exact congrArg _ (funext fun a => ih _)

theorem toOption_readMembers_error {members : List (Quoted × Nat × Node × Nat)}
    (herror : HasUnreadKey members) (done : List (String × α)) :
    (readMembers read done members).toOption = none := by
  induction members generalizing done with
  | nil => exact absurd herror not_hasUnreadKey_nil
  | cons m rest ih =>
    obtain ⟨key, behind, value, next⟩ := m
    cases hkey : key.read with
    | error f =>
      rw [readMembers, hkey]
      rfl
    | ok k =>
      rw [readMembers_cons hkey, toOption_bind]
      cases (read value).toOption with
      | none => rfl
      | some a => exact ih (herror.of_cons hkey) _

theorem readEntries_alike (h : ReadAlike Says read read') :
    ReadAlike Says (readEntries read) (Value.readEntries read') := by
  rintro n _ ⟨hsound, rfl⟩
  cases n with
  | text q =>
    rcases q.value_cases with ⟨_, h⟩ | h | h <;> rw [value, h] <;> rfl
  | number _ _ read skip => cases skip <;> cases read <;> rfl
  | list _ items ending => cases ending <;> rfl
  | record start members ending =>
    rw [readEntries, toOption_bind]
    rcases value_record hsound start ending with ⟨ms, stop, rfl, hvalue, hsaid⟩ | ⟨hvalue, herror⟩
    · rw [hvalue, toOption_readMembers_alike h hsaid]
      exact Option.bind_fun_some _
    · have hfails : (Value.readEntries read' (record start members ending).value).toOption =
          none := by
        rcases hvalue with hvalue | hvalue <;> rw [hvalue] <;> rfl
      rw [hfails]
      cases ending with
      | closed stop =>
        rw [toOption_readMembers_error (herror ⟨stop, rfl⟩)]
        rfl
      | _ => exact Option.bind_fun_none _
  | _ => rfl

end Lists

section Records

variable {α : Type} {s : RecordShape Node Fault α} {s' : RecordShape Value Unit α}

theorem readFields_cons (s : RecordShape Node Fault α) {key : Quoted} {k : String}
    (h : key.read = .ok k) (seen : List String) (a : α) (behind : Nat) (value : Node) (next : Nat)
    (rest : List (Quoted × Nat × Node × Nat)) :
    readFields s seen a ((key, behind, value, next) :: rest) =
      match s.field? k with
      | none =>
        match value.skip? with
        | none => readFields s seen a rest
        | some f => .error f
      | some field =>
        if seen.contains k then .error ⟨.mismatch (.duplicate k), behind⟩
        else field.put value a >>= fun a => readFields s (k :: seen) a rest := by
  rw [readFields, h]
  rfl

theorem toOption_readFields_alike (h : RecordShape.Alike Says s s')
    {members : List (Quoted × Nat × Node × Nat)} {ms : List (String × Value)}
    (hsaid : List.Forall₂ SaysMember members ms) (seen : List String) (a : α) :
    (readFields s seen a members).toOption =
      if (Value.knownKeys s' ms).Nodup ∧ ∀ k ∈ Value.knownKeys s' ms, k ∉ seen then
        (ms.foldl (Value.putMember s') (.ok a)).toOption.map fun a =>
          ((Value.knownKeys s' ms).reverse ++ seen, a)
      else none := by
  induction hsaid generalizing seen a with
  | nil => simp [readFields, Value.knownKeys, Except.toOption]
  | @cons m r members ms hm _ ih =>
    obtain ⟨key, behind, value, next⟩ := m
    obtain ⟨k, v⟩ := r
    obtain ⟨hkey, hvalue⟩ := hm
    dsimp only at hkey hvalue
    have hfield := h.field? k
    rw [readFields_cons s hkey, List.foldl_cons]
    generalize s.field? k = field at hfield ⊢
    cases hk : s'.field? k with
    | none =>
      rw [hk] at hfield
      cases hfield
      have hskip := value.skip?_eq_none_iff
      rw [hvalue.2] at hskip
      rw [Value.knownKeys_cons_of_unknown hk, Value.putMember_of_unknown hk]
      cases hwhole : v.isWhole with
      | true =>
        rw [hskip.mpr hwhole]
        exact ih seen a
      | false =>
        cases hfault : value.skip? with
        | none => exact absurd (hskip.mp hfault) (by simp [hwhole])
        | some f =>
          rw [if_neg Bool.false_ne_true, Value.foldl_putMember_error]
          exact (ite_self _).symm
    | some f' =>
      rw [hk] at hfield
      cases hfield with
      | @some f _ hfield =>
      rw [Value.knownKeys_cons_of_known hk, Value.putMember_of_known hk]
      by_cases hseen : k ∈ seen
      · rw [if_neg fun hfresh => hfresh.2 k List.mem_cons_self hseen]
        simp [hseen, Except.toOption]
      have hput : (f.put value a).toOption = (f'.put v a).toOption := hfield.put hvalue a
      dsimp only
      rw [if_neg (by simpa using hseen), toOption_bind, hput]
      change _ = if _ then ((ms.foldl _ (f'.put v a)).toOption.map _) else none
      cases f'.put v a with
      | error e =>
        rw [Value.foldl_putMember_error]
        exact (ite_self _).symm
      | ok b =>
        refine (ih (k :: seen) b).trans ?_
        -- The key counts as seen for the members behind it.
        have hfresh :
            (Value.knownKeys s' ms).Nodup ∧ (∀ x ∈ Value.knownKeys s' ms, x ∉ k :: seen) ↔
              (k :: Value.knownKeys s' ms).Nodup ∧ ∀ x ∈ k :: Value.knownKeys s' ms, x ∉ seen := by
          rw [List.nodup_cons, List.forall_mem_cons]
          grind
        rw [if_congr hfresh rfl rfl, List.reverse_cons, List.append_assoc]
        rfl

theorem toOption_readFields_error {members : List (Quoted × Nat × Node × Nat)}
    (herror : HasUnreadKey members) (seen : List String) (a : α) :
    (readFields s seen a members).toOption = none := by
  induction members generalizing seen a with
  | nil => exact absurd herror not_hasUnreadKey_nil
  | cons m rest ih =>
    obtain ⟨key, behind, value, next⟩ := m
    cases hkey : key.read with
    | error f =>
      rw [readFields, hkey]
      rfl
    | ok k =>
      have hrest := herror.of_cons hkey
      rw [readFields_cons s hkey]
      cases s.field? k with
      | none =>
        cases value.skip? with
        | none => exact ih hrest seen a
        | some f => rfl
      | some field =>
        dsimp only
        split_ifs
        · rfl
        rw [toOption_bind]
        cases (field.put value a).toOption with
        | none => rfl
        | some b => exact ih hrest _ b

theorem toOption_readRow_alike {fs : List (Field Node Fault α)} {fs' : List (Field Value Unit α)}
    (hfields : List.Forall₂ (Field.Alike Says) fs fs') {items : List Node} {vs : List Value}
    (hitems : List.Forall₂ Says items vs) (stop n : Nat) (a : α) :
    (readRow s (.closed stop) n fs items a).toOption =
      (if Value.RowFits fs' vs then (fs'.zip vs).foldl Value.putItem (.ok a)
        else .error ()).toOption := by
  induction hfields generalizing items vs n a with
  | nil =>
    cases hitems with
    | nil => rfl
    | cons => rfl
  | @cons f f' fs fs' hf _ ih =>
    cases hitems with
    | nil =>
      have hi := ih .nil (n + 1) a
      rw [readRow]
      cases hrequired : f.requiredInRow with
      | true =>
        simp [Value.RowFits, Ending.listFault?, Except.toOption, ← hf.requiredInRow, hrequired]
      | false => simpa [Value.RowFits, Ending.listFault?, ← hf.requiredInRow, hrequired] using hi
    | @cons item v items vs hitem hitems =>
      have hstep : Value.putItem (.ok a) (f', v) = f'.put v a := rfl
      rw [readRow, toOption_bind, hf.put hitem a, List.zip_cons_cons, List.foldl_cons, hstep,
        if_congr (Value.rowFits_cons_cons f' fs' v vs) rfl rfl]
      cases f'.put v a with
      | error e =>
        rw [Value.foldl_putItem_error, ite_self]
        rfl
      | ok b => exact ih hitems (n + 1) b

theorem toOption_readRow_error {ending : Ending} (h : ¬ ∃ stop, ending = .closed stop) (n : Nat)
    (fs : List (Field Node Fault α)) (items : List Node) (a : α) :
    (readRow s ending n fs items a).toOption = none := by
  induction fs generalizing n items a with
  | nil =>
    cases items with
    | nil =>
      rw [readRow]
      cases ending with
      | closed stop => exact absurd ⟨stop, rfl⟩ h
      | _ => rfl
    | cons item items => rfl
  | cons f fs ih =>
    cases items with
    | nil =>
      rw [readRow]
      cases hfault : ending.listFault? with
      | none => exact absurd (ending.listFault?_eq_none_iff.mp hfault) h
      | some e => rfl
    | cons item items =>
      rw [readRow, toOption_bind]
      cases (f.put item a).toOption with
      | none => rfl
      | some b => exact ih (n + 1) items b

theorem toOption_readRecord_alike (h : RecordShape.Alike Says s s')
    {members : List (Quoted × Nat × Node × Nat)} {ms : List (String × Value)}
    (hsaid : List.Forall₂ SaysMember members ms) (start stop : Nat) :
    (readRecord s (record start members (.closed stop))).toOption =
      (Value.readRecord s' (.record ms)).toOption := by
  have hfault : (Ending.closed stop).recordFault? = none := rfl
  have hmissing : s.missing? (Value.knownKeys s' ms).reverse = none ↔
      s'.missing? (ms.map Prod.fst) = none := by
    rw [h.missing?, RecordShape.missing?_eq_none_iff, RecordShape.missing?_eq_none_iff]
    refine forall₂_congr fun f hf => ?_
    rw [List.mem_reverse, Value.mem_knownKeys hf]
  rw [readRecord, toOption_bind, toOption_readFields_alike h hsaid, h.initial, hfault,
    Value.readRecord]
  simp only [List.not_mem_nil, not_false_eq_true, implies_true, and_true, List.append_nil]
  by_cases hnodup : (Value.knownKeys s' ms).Nodup
  · rw [if_pos hnodup, Option.bind_map]
    simp only [Function.comp_def]
    cases hcase : s.missing? (Value.knownKeys s' ms).reverse with
    | none =>
      rw [if_pos ⟨hnodup, hmissing.mp hcase⟩]
      exact Option.bind_fun_some _
    | some name =>
      have hcannot : s'.missing? (ms.map Prod.fst) ≠ none := by
        rw [Ne, ← hmissing, hcase]
        exact Option.some_ne_none name
      rw [if_neg fun hcan => hcannot hcan.2]
      exact Option.bind_fun_none _
  · rw [if_neg hnodup, if_neg fun hcan => hnodup hcan.1]
    rfl

theorem toOption_readRecord_error {members : List (Quoted × Nat × Node × Nat)} {ending : Ending}
    (herror : (∃ stop, ending = .closed stop) → HasUnreadKey members) (start : Nat) :
    (readRecord s (record start members ending)).toOption = none := by
  rw [readRecord, toOption_bind]
  cases hfault : ending.recordFault? with
  | none =>
    rw [toOption_readFields_error (herror (ending.recordFault?_eq_none_iff.mp hfault))]
    rfl
  | some f => exact Option.bind_fun_none _

theorem readRecord_alike (h : RecordShape.Alike Says s s') :
    ReadAlike Says (readRecord s) (Value.readRecord s') := by
  rintro n _ ⟨hsound, rfl⟩
  cases n with
  | text q =>
    rcases q.value_cases with ⟨_, h⟩ | h | h <;> rw [value, h] <;> rfl
  | number _ _ read skip => cases skip <;> cases read <;> rfl
  | list start items ending =>
    by_cases hclosed : ∃ stop, ending = .closed stop
    · obtain ⟨stop, rfl⟩ := hclosed
      rw [readRecord, toOption_readRow_alike h.fields (says_items hsound), h.initial]
      rfl
    · rw [readRecord, toOption_readRow_error hclosed]
      cases ending with
      | closed stop => exact absurd ⟨stop, rfl⟩ hclosed
      | _ => rfl
  | record start members ending =>
    rcases value_record hsound start ending with ⟨ms, stop, rfl, hvalue, hsaid⟩ | ⟨hvalue, herror⟩
    · rw [hvalue, toOption_readRecord_alike h hsaid]
    · rw [toOption_readRecord_error herror]
      rcases hvalue with hvalue | hvalue <;> rw [hvalue] <;> rfl
  | _ => rfl

end Records

/-- The notation of nodes agrees with that of what they say. -/
theorem agree_value : Notation.Agree Says where
  text := readText_alike
  flag := readFlag_alike
  index := readIndex_alike
  choice := readChoice_alike
  list := readList_alike
  entries := readEntries_alike
  record := readRecord_alike

end CleanSql.Json.Node
