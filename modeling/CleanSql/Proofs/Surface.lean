import CleanSql.Proofs.Frame.Basic
import CleanSql.Proofs.TypeText

/-!
# What stands outside of quotes and parentheses

The surface of a text is what a reader meets outside of all quotes and parentheses. Neutral texts
in parentheses add nothing to it, so the surface of a frame can be told from its fixed texts and
what stands outside with them (`Frame.surface_fill`). Some of the words on it make clauses and
conditions.
-/
namespace CleanSql

namespace ScanState

section

variable (p : Profile)

/-- Behind a character. A parenthesis that closes nothing is passed over. -/
def next (s : ScanState) (c : Char) : ScanState := (step p s c).getD {}

/-- What shows of a character: itself outside of quotes and parentheses, and a blank for one that
opens them. -/
def shown (s : ScanState) (c : Char) : List Char :=
  if s.mode.isOutside && s.depth == 0 then (if next p s c = {} then [c] else [' ']) else []

def surface : ScanState → List Char → List Char
  | _, [] => []
  | s, c :: cs => s.shown p c ++ surface (s.next p c) cs

end

variable {p : Profile}

theorem next_of_step {s r : ScanState} {c : Char} (h : step p s c = some r) : s.next p c = r := by
  rw [next, h, Option.getD_some]

theorem surface_append {s r : ScanState} {xs : List Char} (h : run p s xs = some r)
    (ys : List Char) : surface p s (xs ++ ys) = surface p s xs ++ surface p r ys := by
  induction xs generalizing s with
  | nil =>
    cases h
    rfl
  | cons c xs ih =>
    rw [run_cons] at h
    obtain ⟨t, ht, hr⟩ := Option.bind_eq_some_iff.mp h
    rw [List.cons_append, surface, surface, next_of_step ht, ih hr, List.append_assoc]

/-- Inside of parentheses nothing shows. -/
theorem surface_inside {s r : ScanState} {cs : List Char} (h : run p s cs = some r) (k : Nat) :
    surface p ⟨s.mode, s.depth + (k + 1)⟩ cs = [] := by
  induction cs generalizing s with
  | nil => rfl
  | cons c cs ih =>
    rw [run_cons] at h
    obtain ⟨t, ht, hr⟩ := Option.bind_eq_some_iff.mp h
    rw [surface, next_of_step (step_add ht (k + 1)), ih hr]
    simp [shown]

/-- Behind a quote a text shows as it does elsewhere, if it does not double the quote. -/
theorem surface_of_isolates {sql : String} (h : isolates p sql) {m : LexMode} (hm : m.isOutside)
    (n : Nat) : surface p ⟨m, n⟩ sql.toList = surface p ⟨.code, n⟩ sql.toList := by
  obtain ⟨c, cs, hc, hstep⟩ := step_isolates h hm
  have hnext : next p ⟨m, n⟩ c = next p ⟨.code, n⟩ c := by
    simp only [next, step, hstep]
  have houtside : LexMode.code.isOutside = true := rfl
  rw [hc, surface, surface, hnext]
  simp only [shown, hnext, hm, houtside]

theorem mem_of_mem_surface {s : ScanState} {cs : List Char} {x : Char} (h : x ∈ surface p s cs) :
    x ∈ cs ∨ x = ' ' := by
  induction cs generalizing s with
  | nil => cases h
  | cons c cs ih =>
    rw [surface, List.mem_append] at h
    obtain h | h := h
    · unfold shown at h
      split_ifs at h
      · exact .inl (by simp [List.mem_singleton.mp h])
      · exact .inr (List.mem_singleton.mp h)
      · cases h
    · exact (ih h).imp_left (List.mem_cons_of_mem c)

/-- Of a quoted name nothing shows but blanks. -/
theorem surface_quoteIdentifier (name : String) :
    ∀ c ∈ surface p {} (p.quoteIdentifier name).toList, c = ' ' := by
  have hescape (c : Char) : ∀ x ∈ surface p ⟨.identifier, 0⟩ (p.identifierQuote.escape c),
      x = ' ' := by
    unfold IdentifierQuote.escape
    split_ifs with hc
    · simp_all [surface, shown, next, step, LexMode.step, LexMode.isOutside]
    · simp [surface, shown, LexMode.isOutside]
  have hinside (cs : List Char) :
      ∀ x ∈ surface p ⟨.identifier, 0⟩ (cs.flatMap p.identifierQuote.escape ++
        [p.identifierQuote.closing]), x = ' ' := by
    induction cs with
    | nil => simp [surface, shown, LexMode.isOutside]
    | cons c cs ih =>
      rw [List.flatMap_cons, List.append_assoc, surface_append (run_identifier_escape 0 c)]
      exact List.forall_mem_append.mpr ⟨hescape c, ih⟩
  have hquote : p.identifierQuote.opening ≠ '\'' := by cases p.identifierQuote <;> decide
  have hopen : next p {} p.identifierQuote.opening = ⟨.identifier, 0⟩ := by
    simp [next, step, LexMode.step, LexMode.enter, hquote]
  rw [Profile.toList_quoteIdentifier, List.cons_append, surface, hopen]
  refine List.forall_mem_append.mpr ⟨?_, hinside name.toList⟩
  simp [shown, hopen]

end ScanState

/-- The words that begin clauses, join conditions and give names. -/
def clauseWords : List String := ["AS", "FROM", "WHERE", "AND", "OR", "UNION", "LIMIT"]

namespace Text

/-- Those of the words of a text that make clauses, in capitals. -/
def clauses (cs : List Char) : List String :=
  ((cs.splitOnP fun c => !TypeText.isWordChar c).map fun w =>
    String.ofList (w.map Char.toUpper)).filter clauseWords.contains

theorem clauses_append_cons {c : Char} (hc : ¬ TypeText.isWordChar c) (xs ys : List Char) :
    clauses (xs ++ c :: ys) = clauses xs ++ clauses ys := by
  have hsep : (!TypeText.isWordChar c) = true := by simpa using hc
  rw [clauses, List.splitOnP_append_cons xs ys hsep, List.map_append, List.filter_append]
  rfl

theorem mem_of_mem_splitOnP {k : Char → Bool} {cs w : List Char} (hw : w ∈ cs.splitOnP k) :
    ∀ c ∈ w, c ∈ cs := by
  induction cs generalizing w with
  | nil =>
    rw [List.splitOnP_nil, List.mem_singleton] at hw
    simp [hw]
  | cons x cs ih =>
    rw [List.splitOnP_cons_eq_if_modifyHead] at hw
    split_ifs at hw with hx
    · obtain rfl | hw := List.mem_cons.mp hw
      · simp
      · exact fun c hc => List.mem_cons_of_mem _ (ih hw c hc)
    · obtain ⟨v, vs, hv⟩ := List.exists_cons_of_ne_nil (List.splitOnP_ne_nil k cs)
      rw [hv, List.modifyHead_cons] at hw
      rw [hv] at ih
      obtain rfl | hw := List.mem_cons.mp hw
      · exact List.forall_mem_cons.mpr ⟨List.mem_cons_self,
          fun c hc => List.mem_cons_of_mem _ (ih List.mem_cons_self c hc)⟩
      · exact fun c hc => List.mem_cons_of_mem _ (ih (List.mem_cons_of_mem _ hw) c hc)

theorem clauses_eq_nil {cs : List Char} (h : ∀ c ∈ cs, ¬ c.isAlpha) : clauses cs = [] := by
  rw [clauses, List.filter_eq_nil_iff]
  intro word hword hclause
  obtain ⟨w, hw, rfl⟩ := List.mem_map.mp hword
  have hletters : ∀ v ∈ clauseWords, v.toList.any Char.isAlpha := by decide
  obtain ⟨c, hc, halpha⟩ := List.any_eq_true.mp (hletters _ (List.contains_iff_mem.mp hclause))
  rw [String.toList_ofList] at hc
  obtain ⟨x, hx, rfl⟩ := List.mem_map.mp hc
  exact h x (mem_of_mem_splitOnP hw x hx) (isAlpha_of_toUpper halpha)

end Text

/-- The words that make clauses in a text of SQL, outside of its quotes and parentheses. -/
def outerClauses (p : Profile) (sql : String) : List String :=
  Text.clauses (ScanState.surface p {} sql.toList)

namespace Frame

variable {p : Profile}

/-- The surface of a frame around an expression, with the parentheses that are open before it. -/
def surface (p : Profile) (e : String) : Nat → Frame → List Char
  | _, [] => []
  | n, .text sql :: f =>
    ScanState.surface p ⟨.code, n⟩ sql.toList ++
      surface p e ((ScanState.run p ⟨.code, n⟩ sql.toList).elim n ScanState.depth) f
  | 0, q :: f => ScanState.surface p {} (q.write p e).toList ++ surface p e 0 f
  | n + 1, _ :: f => surface p e (n + 1) f

theorem surface_fill_of_check {s r : FrameState} {f : Frame} {e : String}
    (hpart : ∀ sql ∈ f.parts, Neutral p sql) (he : Neutral p e)
    (h : f.check p s = some r) {m : LexMode} (hm : s.Admits m) :
    ScanState.surface p ⟨m, s.depth⟩ (f.fill p e).toList = f.surface p e s.depth := by
  induction f generalizing s m with
  | nil => rfl
  | cons q f ih =>
    rw [check_cons] at h
    obtain ⟨t, ht, hr⟩ := Option.bind_eq_some_iff.mp h
    obtain ⟨k, hk, hrun⟩ :=
      Piece.run_write (fun sql hq => hpart sql (mem_parts_cons.mpr (.inl hq))) he ht hm
    have hrest := ih (fun sql hq => hpart sql (mem_parts_cons.mpr (.inr hq))) hr hk
    rw [fill_cons, String.toList_append, ScanState.surface_append hrun, hrest]
    by_cases hq : ∃ sql, q = .text sql
    · obtain ⟨sql, rfl⟩ := hq
      obtain ⟨hs, -, hcode⟩ := check_text ht
      have hsame : ScanState.surface p ⟨m, s.depth⟩ sql.toList =
          ScanState.surface p ⟨.code, s.depth⟩ sql.toList := by
        obtain hbare | hisolates := hs
        · rw [hm.2 hbare]
        · exact ScanState.surface_of_isolates hisolates hm.1 s.depth
      rw [surface, hcode]
      exact congrArg (· ++ _) hsame
    · rw [not_exists] at hq
      obtain ⟨hbare, rfl⟩ := check_of_ne_text ht hq
      obtain ⟨k, hrun, -⟩ := Piece.neutral_write hq
        (fun sql hq => hpart sql (mem_parts_cons.mpr (.inl hq))) he
      rw [hm.2 hbare]
      cases hdepth : s.depth with
      | zero =>
        cases q with
        | text sql => exact absurd rfl (hq sql)
        | literal _ | part _ | hole => rfl
      | succ n =>
        have hnone := ScanState.surface_inside (Option.mem_def.mp hrun) n
        simp only [Nat.zero_add] at hnone
        rw [hnone, List.nil_append]
        cases q with
        | text sql => exact absurd rfl (hq sql)
        | literal _ | part _ | hole => rfl

theorem surface_fill {f : Frame} {e : String} (hf : f.Balanced p)
    (hpart : ∀ sql ∈ f.parts, Neutral p sql) (he : Neutral p e) :
    ScanState.surface p {} (f.fill p e).toList = f.surface p e 0 := by
  obtain ⟨s, hs, -⟩ := hf
  exact surface_fill_of_check hpart he hs ⟨rfl, fun _ => rfl⟩

end Frame

end CleanSql
