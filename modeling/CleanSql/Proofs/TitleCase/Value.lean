import CleanSql.Proofs.TitleCase.Reading

/-!
# Title case word by word

Where there is no function for title case but rows of words can be made, a text is taken apart at
its spaces, its words are capitalized, and they are put together in their order. Both forms of this
give the same for every text, whatever is in it (`Profile.writeTitle_capitalizes_words`): the one
that goes through JSON too, since its spaces are replaced where nothing but spaces can be meant.
-/
namespace CleanSql

theorem Scope.field_enter_of_lookup {s : Scope} {table field : String}
    {fields : List (String × SqlValue)} {v : SqlValue} (h : fields.lookup field = some v) :
    (s.enter table fields).field table field = v := by
  change (if table = table then (fields.lookup field).getD .null else s.field table field) = v
  rw [if_pos rfl, h, Option.getD_some]

namespace Profile

variable {p : Profile} {g : WordEngine}

theorem means_one : p.Means g "1" fun _ => .number (1 : ℕ) := means_number 1

theorem means_two : p.Means g "2" fun _ => .number (2 : ℕ) := means_number 2

theorem means_callOne (name : String) (hname : IsFunctionName name) {e : String} {m : Meaning}
    (he : p.Means g e m) : p.Means g (callText name [e]) fun s => g.call name [m s] :=
  means_call hname (.cons he .nil) (List.cons_ne_nil _ _)

theorem means_sum {a b : String} {m n : Meaning} (ha : p.Means g a m) (hb : p.Means g b n)
    {c : Char} {cs : List Char} (htext : a.toList = c :: cs) (hc : c ≠ 'S') :
    p.Means g ("(" ++ a ++ " + " ++ b ++ ")") fun s => g.add (m s) (n s) := by
  have hforms : g.forms = [g.splitForm, g.elementForm] ++ g.sumForm :: [] := rfl
  have hfits : p.Fits g g.sumForm.holes (a ++ (" + " ++ (b ++ (")" ++ ""))))
      [.expression m, .expression n] := .expression ha (.expression hb .nil)
  have hopening : g.sumForm.opening = "(" := rfl
  have hwhole : "(" ++ a ++ " + " ++ b ++ ")" =
      g.sumForm.opening ++ (a ++ (" + " ++ (b ++ (")" ++ "")))) := by
    simp only [hopening, String.append_assoc, String.append_empty]
  have hlist (rest : List Char) :
      (g.sumForm.opening ++ (a ++ (" + " ++ (b ++ (")" ++ ""))))).toList ++ rest =
        '(' :: c :: (cs ++ (" + " ++ (b ++ (")" ++ ""))).toList ++ rest) := by
    rw [hopening, String.toList_append, String.toList_append, htext]
    rfl
  have hskip {opening : String} {word : List Char} (hword : opening.toList = '(' :: 'S' :: word)
      (rest : List Char) : Text.dropWord? opening.toList ('(' :: c :: rest) = none := by
    rw [hword]
    exact Text.dropWord?_of_ne hc.symm ['('] word rest
  rw [hwhole]
  refine means_form hforms hfits (List.forall_mem_cons.mpr ⟨fun rest => ?_,
    List.forall_mem_singleton.mpr fun rest => ?_⟩)
  · rw [hlist]
    exact hskip String.toList_ofList _
  · rw [hlist]
    exact hskip String.toList_ofList _

section Capital

variable {e : String} {m : Meaning}

theorem writeUpper_eq_callText (e : String) : p.writeUpper e = callText "UPPER" [e] := by
  rw [callText, String.intercalate_singleton]
  rfl

theorem writeLower_eq_callText (e : String) : p.writeLower e = callText "LOWER" [e] := by
  rw [callText, String.intercalate_singleton]
  rfl

theorem writeFirst_eq_callText (h : p.substring ≠ .fromFor) (e : String) :
    p.writeFirst e = callText "SUBSTRING" [e, "1", "1"] := by
  have hplaces : ", 1, 1)" = ", " ++ ("1" ++ (", " ++ ("1" ++ ")"))) := rfl
  have hfirst : p.writeFirst e = "SUBSTRING(" ++ e ++ ", 1, 1)" := by
    unfold writeFirst
    split
    · next hform => exact absurd hform h
    · rfl
    · rfl
  rw [hfirst, hplaces]
  simp only [callText, String.intercalate_cons_cons, String.intercalate_singleton,
    String.append_assoc]
  rfl

theorem means_first (he : p.Means g e m) : p.Means g (callText "SUBSTRING" [e, "1", "1"])
    fun s => g.call "SUBSTRING" [m s, .number (1 : ℕ), .number (1 : ℕ)] :=
  means_call (by decide) (.cons he (.cons means_one (.cons means_one .nil))) (List.cons_ne_nil _ _)

theorem substring_first (g : WordEngine) (word : String) :
    g.call "SUBSTRING" [.text word, .number (1 : ℕ), .number (1 : ℕ)] =
      .text (String.ofList (word.toList.take 1)) :=
  g.call_substring word 0 1

/-- As many characters as a word has are all that are left of it. -/
theorem substring_len (g : WordEngine) {word : String} (h : ' ' ∉ word.toList) :
    g.call "SUBSTRING" [.text word, .number (2 : ℕ), g.call "LEN" [.text word]] =
      .text (String.ofList (word.toList.drop 1)) := by
  have hlast : word.toList.rdropWhile (· = ' ') = word.toList := by
    refine List.rdropWhile_eq_self_iff.mpr fun hne hspace => h ?_
    rw [← of_decide_eq_true hspace]
    exact List.getLast_mem hne
  have htake : (word.toList.drop 1).take word.toList.length = word.toList.drop 1 :=
    List.take_of_length_le (by rw [List.length_drop]; omega)
  have hrest := g.call_substring word 1 word.toList.length
  rwa [htake, ← hlast, ← g.call_len, hlast] at hrest

def Capitalizes (g : WordEngine) (m m' : Meaning) : Prop :=
  ∀ s word, m s = .text word → ' ' ∉ word.toList →
    m' s = .text (Text.capital g.upper g.lower word)

theorem exists_means_writeCapital_tsql (he : Profile.tsql.Means g e m) :
    ∃ m', Profile.tsql.Means g (Profile.tsql.writeCapital e) m' ∧ Capitalizes g m m' := by
  have hrest : Profile.tsql.Means g (callText "SUBSTRING" [e, "2", callText "LEN" [e]])
      fun s => g.call "SUBSTRING" [m s, .number (2 : ℕ), g.call "LEN" [m s]] :=
    means_call (by decide) (.cons he (.cons means_two (.cons (means_callOne "LEN" (by decide) he)
      .nil))) (List.cons_ne_nil _ _)
  have hsum := means_sum (means_callOne "UPPER" (by decide) (means_first he))
    (means_callOne "LOWER" (by decide) hrest) (toList_callText _ _) (by decide)
  have hplus : " + " = " " ++ ("+" ++ " ") := rfl
  have hlast : Profile.tsql.writeRest e = callText "SUBSTRING" [e, "2", callText "LEN" [e]] := by
    have hplace : ", 2, " = ", " ++ ("2" ++ ", ") := rfl
    have hclosing : "))" = ")" ++ ")" := rfl
    have hopening : "SUBSTRING(" = "SUBSTRING" ++ "(" := rfl
    simp only [writeRest, tsql, callText, String.intercalate_cons_cons,
      String.intercalate_singleton, hplace, hclosing, hopening, String.append_assoc]
  have htext : Profile.tsql.writeCapital e =
      "(" ++ callText "UPPER" [callText "SUBSTRING" [e, "1", "1"]] ++ " + " ++
        callText "LOWER" [callText "SUBSTRING" [e, "2", callText "LEN" [e]]] ++ ")" := by
    rw [writeCapital, writeUpper_eq_callText, writeLower_eq_callText,
      writeFirst_eq_callText (by decide), hlast, hplus]
    simp only [writeConcat, tsql, String.append_assoc]
  rw [← htext] at hsum
  refine ⟨_, hsum, fun s word hword hspace => ?_⟩
  rw [hword, substring_first, substring_len g hspace, g.call_upper, g.call_lower, g.add_text,
    Text.capital_eq g.upper_empty g.lower_empty]

theorem exists_means_writeCapital_mysql (he : Profile.mysql.Means g e m) :
    ∃ m', Profile.mysql.Means g (Profile.mysql.writeCapital e) m' ∧ Capitalizes g m m' := by
  have hrest : Profile.mysql.Means g (callText "SUBSTRING" [e, "2"])
      fun s => g.call "SUBSTRING" [m s, .number (2 : ℕ)] :=
    means_call (by decide) (.cons he (.cons means_two .nil)) (List.cons_ne_nil _ _)
  have hconcat : Profile.mysql.Means g (Profile.mysql.writeCapital e) fun s => g.call "CONCAT"
      [g.call "UPPER" [g.call "SUBSTRING" [m s, .number (1 : ℕ), .number (1 : ℕ)]],
        g.call "LOWER" [g.call "SUBSTRING" [m s, .number (2 : ℕ)]]] := by
    have hlast : Profile.mysql.writeRest e = callText "SUBSTRING" [e, "2"] := by
      have hplace : ", 2)" = ", " ++ ("2" ++ ")") := rfl
      have hopening : "SUBSTRING(" = "SUBSTRING" ++ "(" := rfl
      simp only [writeRest, mysql, callText, String.intercalate_cons_cons,
        String.intercalate_singleton, hplace, hopening, String.append_assoc]
    have htext : Profile.mysql.writeCapital e = callText "CONCAT"
        [callText "UPPER" [callText "SUBSTRING" [e, "1", "1"]],
          callText "LOWER" [callText "SUBSTRING" [e, "2"]]] := by
      rw [writeCapital, writeUpper_eq_callText, writeLower_eq_callText,
        writeFirst_eq_callText (by decide), hlast, callText.eq_def "CONCAT"]
      simp only [writeConcat, mysql, String.intercalate_cons_cons, String.intercalate_singleton,
        String.append_assoc]
    rw [htext]
    exact means_call (by decide) (.cons (means_callOne "UPPER" (by decide) (means_first he))
      (.cons (means_callOne "LOWER" (by decide) hrest) .nil)) (List.cons_ne_nil _ _)
  refine ⟨_, hconcat, fun s word hword _ => ?_⟩
  have hfrom := g.call_substring_from word 1
  rw [hword, substring_first, hfrom, g.call_upper, g.call_lower, g.call_concat,
    Text.capital_eq g.upper_empty g.lower_empty]

end Capital

section Words

variable {e s : String} {m : Meaning} {scope : Scope}

/-- Rows of words become rows of capitalized words, and these one text again. -/
theorem join_capitalized {rows : List (SqlValue × SqlValue)}
    (hrows : rows.Perm (SqlValue.numbered (Text.words s)))
    {f : SqlValue × SqlValue → SqlValue × SqlValue}
    (hf : ∀ word, ' ' ∉ word.toList → ∀ n,
      f (.text word, n) = (.text (Text.capital g.upper g.lower word), n)) :
    SqlValue.join (.text " ") (rows.map f) = .text (Text.titleCase g.upper g.lower s) := by
  have hmap := hrows.map f
  rw [SqlValue.map_numbered fun word hword => hf word (Text.not_mem_word hword)] at hmap
  have hne : (Text.words s).map (Text.capital g.upper g.lower) ≠ [] := by
    simpa using Text.words_ne_nil s
  exact SqlValue.join_of_perm hne hmap " "

theorem writePerWord_stringSplit (p : Profile) (e : String) : p.writePerWord .stringSplit e =
    "(SELECT STRING_AGG(" ++ (p.writeCapital "w.value" ++ (", " ++ (p.quoteLiteral " " ++
      (") WITHIN GROUP (ORDER BY " ++ ("w.ordinal" ++ (") FROM STRING_SPLIT(" ++ (e ++ (", " ++
        (p.quoteLiteral " " ++ (", " ++ ("1" ++ (") AS " ++ ("w" ++ (")" ++
          "")))))))))))))) := by
  have horder : ") WITHIN GROUP (ORDER BY w.ordinal) FROM STRING_SPLIT(" =
      ") WITHIN GROUP (ORDER BY " ++ ("w.ordinal" ++ ") FROM STRING_SPLIT(") := rfl
  have hend : ", 1) AS w)" = ", " ++ ("1" ++ (") AS " ++ ("w" ++ (")" ++ "")))) := rfl
  unfold writePerWord
  dsimp only
  generalize p.writeCapital "w.value" = capital, p.quoteLiteral " " = space
  simp only [horder, hend, String.append_assoc]

theorem exists_means_writePerWord_tsql (he : Profile.tsql.Means g e m)
    (hs : m scope = .text s) : ∃ title, Profile.tsql.Means g
        (Profile.tsql.writePerWord .stringSplit e) title ∧
      title scope = .text (Text.titleCase g.upper g.lower s) := by
  have htable : IsName "w" := by decide
  have hspace : Profile.tsql.Means g (Profile.tsql.quoteLiteral " ") fun _ => .text " " :=
    means_literal " "
  have hordinalName : IsName "ordinal" := by decide
  have hordinal : Profile.tsql.Means g "w.ordinal" fun s => s.field "w" "ordinal" :=
    means_field rfl htable hordinalName
  have hvalueName : IsName "value" := by decide
  have hvalue : Profile.tsql.Means g "w.value" fun s => s.field "w" "value" :=
    means_field rfl htable hvalueName
  obtain ⟨capital, hcapital, hword⟩ := exists_means_writeCapital_tsql hvalue
  have hfits : Profile.tsql.Fits g g.splitForm.holes _ _ :=
    .expression hcapital <| .expression hspace <| .expression hordinal <| .expression he <|
      .expression hspace <| .expression means_one <| .name htable .nil
  have hforms : g.forms = [] ++ g.splitForm :: [g.elementForm, g.sumForm] := rfl
  have htitle := means_form hforms hfits nofun
  have hopening : "(SELECT STRING_AGG(" = g.splitForm.opening := rfl
  simp only [writePerWord_stringSplit, hopening]
  refine ⟨_, htitle, ?_⟩
  have hrows : (g.splitRows (m scope) (.text " ") (.number (1 : ℕ))).Perm
      (SqlValue.numbered (Text.words s)) := by
    rw [hs]
    exact g.splitRows_perm s ' '
  have hfields (word : String) (n : SqlValue) :
      (scope.enter "w" [("value", .text word), ("ordinal", n)]).field "w" "value" = .text word ∧
        (scope.enter "w" [("value", .text word), ("ordinal", n)]).field "w" "ordinal" = n :=
    ⟨Scope.field_enter_of_lookup rfl, Scope.field_enter_of_lookup rfl⟩
  exact join_capitalized hrows fun word hspace n =>
    Prod.ext (hword _ word (hfields word n).1 hspace) (hfields word n).2

theorem writePerWord_jsonTable (p : Profile) (e : String) : p.writePerWord .jsonTable e =
    "(SELECT GROUP_CONCAT(" ++ (p.writeCapital "w.word" ++ (" ORDER BY " ++ ("w.pos" ++
      (" SEPARATOR " ++ (p.quoteLiteral " " ++ (") FROM JSON_TABLE(" ++ (callText "REPLACE"
        [callText "JSON_ARRAY" [e], p.quoteLiteral " ", p.quoteLiteral "\",\""] ++ (", " ++
          ("'$[*]'" ++ (" COLUMNS (" ++ ("pos" ++ (" FOR ORDINALITY, " ++ ("word" ++
            (" TEXT PATH " ++ ("'$'" ++ (")) AS " ++ ("w" ++ (")" ++ "")))))))))))))))))) := by
  have horder : " ORDER BY w.pos SEPARATOR " = " ORDER BY " ++ ("w.pos" ++ " SEPARATOR ") := rfl
  have hrows : ") FROM JSON_TABLE(REPLACE(JSON_ARRAY(" =
      ") FROM JSON_TABLE(" ++ ("REPLACE" ++ ("(" ++ ("JSON_ARRAY" ++ "("))) := rfl
  have harray : "), " = ")" ++ ", " := rfl
  have hend : "), '$[*]' COLUMNS (pos FOR ORDINALITY, word TEXT PATH '$')) AS w)" =
      ")" ++ (", " ++ ("'$[*]'" ++ (" COLUMNS (" ++ ("pos" ++ (" FOR ORDINALITY, " ++ ("word" ++
        (" TEXT PATH " ++ ("'$'" ++ (")) AS " ++ ("w" ++ (")" ++ ""))))))))))) := rfl
  unfold writePerWord callText
  dsimp only
  generalize p.writeCapital "w.word" = capital, p.quoteLiteral " " = space,
    p.quoteLiteral "\",\"" = quotes
  simp only [String.intercalate_cons_cons, String.intercalate_singleton, horder, hrows, harray,
    hend, String.append_assoc]

theorem exists_replaced (g : WordEngine) (s : String) : ∃ json,
    g.call "REPLACE" [g.call "JSON_ARRAY" [.text s], .text " ", .text "\",\""] = .text json ∧
      Json.meaning json = .list ((Text.words s).map .text) := by
  obtain ⟨e, he, hspace, harray⟩ := g.call_jsonArray s
  refine ⟨_, ?_, Json.meaning_replace_space he hspace s⟩
  rw [harray, g.call_replace (by decide)]

/-- The two queries part where they name how texts are put together. -/
theorem dropWord?_splitForm (g : WordEngine) (rest : List Char) :
    Text.dropWord? g.splitForm.opening.toList (g.elementForm.opening.toList ++ rest) = none := by
  have hsplit : "(SELECT STRING_AGG(".toList =
      "(SELECT ".toList ++ 'S' :: "TRING_AGG(".toList := by decide
  have helement : "(SELECT GROUP_CONCAT(".toList =
      "(SELECT ".toList ++ 'G' :: "ROUP_CONCAT(".toList := by decide
  change Text.dropWord? "(SELECT STRING_AGG(".toList ("(SELECT GROUP_CONCAT(".toList ++ rest) = none
  rw [hsplit, helement, List.append_assoc, List.cons_append]
  exact Text.dropWord?_of_ne (by decide) _ _ _

theorem exists_means_writePerWord_mysql (he : Profile.mysql.Means g e m)
    (hs : m scope = .text s) : ∃ title, Profile.mysql.Means g
        (Profile.mysql.writePerWord .jsonTable e) title ∧
      title scope = .text (Text.titleCase g.upper g.lower s) := by
  have htable : IsName "w" := by decide
  have hspace : Profile.mysql.Means g (Profile.mysql.quoteLiteral " ") fun _ => .text " " :=
    means_literal " "
  have hquotes : Profile.mysql.Means g (Profile.mysql.quoteLiteral "\",\"")
      fun _ => .text "\",\"" := means_literal "\",\""
  have hordinalName : IsName "pos" := by decide
  have hordinal : Profile.mysql.Means g "w.pos" fun s => s.field "w" "pos" :=
    means_field rfl htable hordinalName
  have hvalueName : IsName "word" := by decide
  have hvalue : Profile.mysql.Means g "w.word" fun s => s.field "w" "word" :=
    means_field rfl htable hvalueName
  have hpath : Profile.mysql.Means g "'$[*]'" fun _ => .text "$[*]" := means_literal "$[*]"
  have hinside : Profile.mysql.Means g "'$'" fun _ => .text "$" := means_literal "$"
  have hreplace : IsFunctionName "REPLACE" := by decide
  have hdocument := means_call hreplace (.cons (means_callOne "JSON_ARRAY" (by decide) he)
    (.cons hspace (.cons hquotes .nil))) (List.cons_ne_nil _ _)
  obtain ⟨capital, hcapital, hword⟩ := exists_means_writeCapital_mysql hvalue
  have hfits : Profile.mysql.Fits g g.elementForm.holes _ _ :=
    .expression hcapital <| .expression hordinal <| .expression hspace <|
      .expression hdocument <| .expression hpath <| .name hordinalName <|
        .name hvalueName <| .expression hinside <| .name htable .nil
  have hforms : g.forms = [g.splitForm] ++ g.elementForm :: [g.sumForm] := rfl
  have htitle := means_form hforms hfits (List.forall_mem_singleton.mpr fun rest => by
    rw [String.toList_append, List.append_assoc]
    exact dropWord?_splitForm g _)
  have hopening : "(SELECT GROUP_CONCAT(" = g.elementForm.opening := rfl
  simp only [writePerWord_jsonTable, hopening]
  refine ⟨_, htitle, ?_⟩
  obtain ⟨json, hjson, hmeaning⟩ := exists_replaced g s
  have hrows : (g.elementRows (g.call "REPLACE" [g.call "JSON_ARRAY" [m scope], .text " ",
      .text "\",\""]) (.text "$[*]") (.text "$")).Perm (SqlValue.numbered (Text.words s)) := by
    rw [hs, hjson]
    exact g.elementRows_perm hmeaning
  have hfields (word : String) (n : SqlValue) :
      (scope.enter "w" [("word", .text word), ("pos", n)]).field "w" "word" = .text word ∧
        (scope.enter "w" [("word", .text word), ("pos", n)]).field "w" "pos" = n :=
    ⟨Scope.field_enter_of_lookup rfl, Scope.field_enter_of_lookup rfl⟩
  exact join_capitalized hrows fun word hspace n =>
    Prod.ext (hword _ word (hfields word n).1 hspace) (hfields word n).2

/-- Where title case is put together of rows of words, its value is the text with every word between
single spaces capitalized. The text from which the words come by way of JSON is always the list of
exactly these words. -/
theorem writeTitle_capitalizes_words {d : Dialect} (hd : d ∈ [.tsql, .mysql]) (g : WordEngine)
    (he : d.profile.Means g e m) (hs : m scope = .text s) :
    ∃ sql title, d.profile.writeTitle e = .approximate sql (.titlePerWord d) ∧
      d.profile.Means g sql title ∧ title scope = .text (Text.titleCase g.upper g.lower s) ∧
      ∃ json, g.call "REPLACE" [g.call "JSON_ARRAY" [.text s], .text " ", .text "\",\""] =
        .text json ∧ Json.meaning json = .list ((Text.words s).map .text) := by
  have htitle : ∃ sql title, d.profile.writeTitle e = .approximate sql (.titlePerWord d) ∧
      d.profile.Means g sql title ∧ title scope = .text (Text.titleCase g.upper g.lower s) := by
    obtain rfl | rfl : d = .tsql ∨ d = .mysql := by simpa using hd
    · obtain ⟨title, hmeans, hvalue⟩ := exists_means_writePerWord_tsql he hs
      exact ⟨_, title, rfl, hmeans, hvalue⟩
    · obtain ⟨title, hmeans, hvalue⟩ := exists_means_writePerWord_mysql he hs
      exact ⟨_, title, rfl, hmeans, hvalue⟩
  obtain ⟨sql, title, hwritten, hmeans, hvalue⟩ := htitle
  exact ⟨sql, title, hwritten, hmeans, hvalue, exists_replaced g s⟩

/-- A row with runs of spaces, quotes, a backslash and a control character. -/
def hostileScope : Scope where
  row _ := some " o'NEIL  \"x\\\t"

theorem writeTitle_capitalizes_words_hostile :
    Dialect.mysql ∈ [.tsql, .mysql] ∧
      Dialect.mysql.profile.Means .documented (Dialect.mysql.profile.quoteIdentifier "c")
        (fun s => .ofOption (s.row "c")) ∧
      SqlValue.ofOption (hostileScope.row "c") = .text " o'NEIL  \"x\\\t" ∧
      ∃ sql title, Dialect.mysql.profile.writeTitle (Dialect.mysql.profile.quoteIdentifier "c") =
          .approximate sql (.titlePerWord .mysql) ∧
        Dialect.mysql.profile.Means .documented sql title ∧
        title hostileScope = .text " O'neil  \"x\\\t" ∧
        ∃ json, WordEngine.documented.call "REPLACE" [WordEngine.documented.call "JSON_ARRAY"
            [.text " o'NEIL  \"x\\\t"], .text " ", .text "\",\""] = .text json ∧
          Json.meaning json = .list [.text "", .text "o'NEIL", .text "", .text "\"x\\\t"] := by
  have hwords : Text.words " o'NEIL  \"x\\\t" = ["", "o'NEIL", "", "\"x\\\t"] := by
    rw [Text.words_eq]
    decide
  have htitle : Text.titleCase (String.map Char.toUpper) (String.map Char.toLower)
      " o'NEIL  \"x\\\t" = " O'neil  \"x\\\t" := by
    rw [Text.titleCase, hwords]
    decide +kernel
  have hd : Dialect.mysql ∈ [Dialect.tsql, Dialect.mysql] := by decide
  have hcolumn := means_column (p := Dialect.mysql.profile) (g := .documented) "c"
  have htext : SqlValue.ofOption (hostileScope.row "c") = .text " o'NEIL  \"x\\\t" := rfl
  have hresult := writeTitle_capitalizes_words hd .documented hcolumn htext
  rw [hwords] at hresult
  obtain ⟨sql, title, hwritten, hmeans, hvalue, hjson⟩ := hresult
  exact ⟨hd, hcolumn, htext, sql, title, hwritten, hmeans, hvalue.trans (congrArg _ htitle), hjson⟩

end Words

end Profile

end CleanSql
