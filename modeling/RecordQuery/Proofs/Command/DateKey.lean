import RecordQuery.Proofs.Command.Settings
import RecordQuery.Proofs.Number.Whole
import RecordQuery.Proofs.Text.Lower

set_option autoImplicit false

/-!
# The field for dates

Which field holds the date of a record can be said by an argument or by a variable of the environment. An
argument says it word for word. The text of a variable is taken for a truth value or a number if it can be,
and then the field has the name that this value is written as. So the two agree on a text exactly if it is
taken for no value, or for one that is written that way.

## Main definitions

* `RecordQuery.Environment.TakenAs` — what is written for the value that a text is taken for.
* `RecordQuery.Environment.Foreign` — environments that say nothing about settings.

## Main results

* `RecordQuery.Environment.not_takenAs_of_name` — names are not taken for values.
* `RecordQuery.World.loaded_dateKey` — the field for dates by an argument and by a variable.
* `RecordQuery.World.loaded_dateKey_leading_zeros` — a text on which they differ.
-/

namespace RecordQuery

open Settings

namespace Environment

/-! ## Texts that are taken for values -/

/-- The word for a truth value. -/
def truthWord (b : Bool) : String := if b then "true" else "false"

/-- `TakenAs k m`: the text `k` of a variable is a truth value or a number, which is written `m`. A whole
number of 64 bits is exact, other numbers are rounded. -/
inductive TakenAs (k : String) : String → Prop
  | truth (b : Bool) (h : Text.lower k = truthWord b) : TakenAs k (truthWord b)
  | whole {n : Int} (h : IsWhole k.toList n) : TakenAs k (toString n)
  | number {x : Number} (hwhole : ∀ n, ¬IsWhole k.toList n)
      (h : Number.read? k.toList = some x) : TakenAs k x.text

variable {k m : String}

/-- A text that starts as numbers do is no truth value. -/
theorem lower_ne_truthWord_of_head (h : ∃ c ∈ k.toList.head?, IsNumberHead c) (b : Bool) :
    Text.lower k ≠ truthWord b := by
  obtain ⟨c, hc, hhead⟩ := h
  have hlt : c.toNat < 0x41 := by
    rcases hhead with hdigit | rfl | rfl | rfl
    · have hbounds := (isDigit_iff c).1 hdigit
      omega
    all_goals decide
  intro htruth
  have hfirst : (Text.lower k).toList.head? = some c := by
    obtain ⟨cs, hcs⟩ := List.head?_eq_some_iff.1 hc
    rw [Text.lower, String.toList_ofList, hcs, Text.lowerFrom, Text.lowerAt_of_lt_letters hlt]
    rfl
  rw [htruth] at hfirst
  cases b with
  | true =>
    obtain rfl : 't' = c := Option.some.inj hfirst
    exact absurd hlt (by decide)
  | false =>
    obtain rfl : 'f' = c := Option.some.inj hfirst
    exact absurd hlt (by decide)

/-- A word for a number is no truth value. -/
theorem lower_ne_truthWord_of_word (h : k.toList.map lowerAscii ∈ numberWords) (b : Bool) :
    Text.lower k ≠ truthWord b := by
  obtain ⟨w, hw, hne⟩ : ∃ w, k.toList.map lowerAscii = w.toList.map lowerAscii ∧
      ∀ b, Text.lower w ≠ truthWord b := by
    simp only [numberWords, List.mem_cons, List.not_mem_nil, or_false] at h
    rcases h with h | h | h
    · exact ⟨"nan", h, by decide +kernel⟩
    · exact ⟨"inf", h, by decide +kernel⟩
    · exact ⟨"infinity", h, by decide +kernel⟩
  have hsame : Text.SameLetters k w := hw
  rw [hsame.lower_eq]
  exact hne b

/-- A text that is read as a number is no truth value. -/
theorem lower_ne_truthWord_of_read? {x : Number} (h : Number.read? k.toList = some x) (b : Bool) :
    Text.lower k ≠ truthWord b := by
  rcases Number.isNumberWord_or_head_of_read? h with hword | hhead
  · exact lower_ne_truthWord_of_word hword b
  · exact lower_ne_truthWord_of_head hhead b

/-- The value of a text that is no truth value. -/
theorem value_of_ne_truthWord (h : ∀ b, Text.lower k ≠ truthWord b) :
    value k = match readInteger? 10 k.toList with
      | some n => .integer n
      | none =>
        match Number.read? k.toList with
        | some x => .decimal x
        | none => .string k := by
  have htrue : Text.lower k ≠ "true" := h true
  have hfalse : Text.lower k ≠ "false" := h false
  exact (if_neg htrue).trans (if_neg hfalse)

/-- **A text that is taken for a value is written as that.** -/
theorem text?_value_of_takenAs (h : TakenAs k m) : text? (value k) = some m := by
  cases h with
  | truth b h =>
    rw [value, h]
    cases b <;> rfl
  | whole h =>
    rw [value_of_ne_truthWord (lower_ne_truthWord_of_head h.exists_head),
      readInteger?_ten_eq_some_iff.2 h]
    rfl
  | number hwhole h =>
    rw [value_of_ne_truthWord (lower_ne_truthWord_of_read? h), readInteger?_ten_eq_none hwhole, h]
    rfl

/-- **A text that is not taken for a value stays as it is.** -/
theorem text?_value_of_not_takenAs (h : ∀ m, ¬TakenAs k m) : text? (value k) = some k := by
  have htruth (b : Bool) : Text.lower k ≠ truthWord b := fun hb => h _ (.truth b hb)
  have hwhole (n : Int) : ¬IsWhole k.toList n := fun hn => h _ (.whole hn)
  have hnumber : Number.read? k.toList = none :=
    Option.eq_none_iff_forall_not_mem.2 fun x hx => h _ (.number hwhole hx)
  rw [value_of_ne_truthWord htruth, readInteger?_ten_eq_none hwhole, hnumber]
  rfl

/-- **What becomes of the text of a variable**: what is written for the value that it is taken for, or the
text itself. -/
theorem exists_text?_value (k : String) :
    ∃ key, text? (value k) = some key ∧ (∀ m, TakenAs k m → key = m) ∧
      ((∀ m, ¬TakenAs k m) → key = k) ∧ (key = k ↔ ∀ m, TakenAs k m → m = k) := by
  by_cases htaken : ∃ m, TakenAs k m
  · obtain ⟨m, hm⟩ := htaken
    have htext : text? (value k) = some m := text?_value_of_takenAs hm
    have hunique : ∀ m', TakenAs k m' → m = m' := fun m' hm' =>
      Option.some.inj (htext.symm.trans (text?_value_of_takenAs hm'))
    refine ⟨m, htext, hunique, fun hnot => absurd hm (hnot m), ?_⟩
    constructor
    · intro hk m' hm'
      rw [← hunique m' hm', hk]
    · intro hall
      exact hall m hm
  · have hnot : ∀ m, ¬TakenAs k m := fun m hm => htaken ⟨m, hm⟩
    refine ⟨k, text?_value_of_not_takenAs hnot, fun m hm => absurd hm (hnot m), fun _ => rfl, ?_⟩
    exact ⟨fun _ m hm => absurd hm (hnot m), fun _ => rfl⟩

/-- Names are not taken for values: they do not start as numbers do, and are no words for numbers or
truth values. -/
theorem not_takenAs_of_name (hhead : ∀ c ∈ k.toList.head?, ¬IsNumberHead c)
    (hword : k.toList.map lowerAscii ∉ numberWords) (htruth : ∀ b, Text.lower k ≠ truthWord b) :
    ∀ m, ¬TakenAs k m := by
  intro m h
  cases h with
  | truth b h => exact htruth b h
  | whole h =>
    obtain ⟨c, hc, hnumber⟩ := h.exists_head
    exact hhead c hc hnumber
  | number _ h =>
    rcases Number.isNumberWord_or_head_of_read? h with h | ⟨c, hc, hnumber⟩
    · exact hword h
    · exact hhead c hc hnumber

/-! ## Layers of one variable -/

/-- No variable of an environment is one for settings. -/
def Foreign (environment : Environment) : Prop :=
  ∀ p ∈ environment, ¬mark <+: (Text.lower p.1).toList

variable {before after : Environment}

/-- Foreign variables give no settings. -/
theorem Foreign.filterMap_setting? (h : before.Foreign) :
    before.filterMap (fun p => setting? p.1 p.2) = [] :=
  List.filterMap_eq_nil_iff.2 fun p hp => setting?_of_not_mark (h p hp) p.2

/-- Foreign variables name no file of settings. -/
theorem Foreign.ne_configuration (h : before.Foreign) {p : String × String} (hp : p ∈ before) :
    p.1 ≠ "RECSIFT_CONFIG" := by
  intro hname
  refine h p hp ?_
  rw [hname]
  decide +kernel

/-- An environment in which no variable names a file of settings. -/
theorem configuration?_eq_none {environment : Environment}
    (h : ∀ p ∈ environment, p.1 ≠ "RECSIFT_CONFIG") : environment.configuration? = none := by
  rw [configuration?, Entries.get?, Option.map_eq_none_iff, List.find?_eq_none]
  intro p hp heq
  exact h p hp (beq_iff_eq.1 heq)

/-- Foreign variables are an empty layer. -/
theorem layer_foreign (hbefore : before.Foreign) (hafter : after.Foreign) :
    (before ++ after).layer = [] := by
  rw [layer, List.filterMap_append, hbefore.filterMap_setting?, hafter.filterMap_setting?]
  rfl

/-- The variable for the field for dates is a layer of its value. -/
theorem layer_dateKey (hbefore : before.Foreign) (hafter : after.Foreign) (k : String) :
    (before ++ ("RECSIFT_DATE_KEY", k) :: after).layer = [("date_key", value k)] := by
  have hsetting : setting? "RECSIFT_DATE_KEY" k = some ("date_key", value k) :=
    setting?_envName .dateKey k
  rw [layer, List.filterMap_append, hbefore.filterMap_setting?, List.filterMap_cons, hsetting,
    hafter.filterMap_setting?]
  have hplaced : placed "date_key" (value k) = ("date_key", value k) :=
    placed_name .dateKey (value k)
  show Entries.ofList [placed "date_key" (value k)] = _
  rw [hplaced]
  rfl

end Environment

open Environment

/-! ## Arguments -/

namespace Arguments

/-- Arguments are taken one by one. -/
theorem Draft.takeAll_cons {d d' : Draft} {argument : String} (h : d.take argument = .ok d')
    (rest : List String) : d.takeAll (argument :: rest) = d'.takeAll rest := by
  rw [takeAll, h]

/-- The letter of the query, and the query behind it. -/
theorem Draft.takeAll_query (query : String) (rest : List String) :
    takeAll {} ("-q" :: query :: rest) =
      takeAll { pending := some (.query, some query) } rest := by
  have hletter : take {} "-q" = .ok { pending := some (.query, none) } := by
    decide +kernel
  have hquery : take { pending := some (.query, none) } query =
      .ok { pending := some (.query, some query) } := rfl
  rw [takeAll_cons hletter, takeAll_cons hquery]

/-- A name behind two hyphens, with a value behind an equals sign. -/
theorem Draft.take_name {d : Draft} {argument : String} {c : Char} {name value : List Char}
    (hvalues : d.valuesOnly = false) (hpending : d.pending ≠ some (.query, none))
    (hequals : '=' ∉ c :: name)
    (h : argument.toList = '-' :: '-' :: c :: (name ++ '=' :: value)) :
    d.take argument = d.takeName (String.ofList (c :: name)) (some (String.ofList value)) := by
  have hname : ∀ e ∈ c :: name, (decide (e ≠ '=')) = true := by
    intro e he
    refine decide_eq_true fun heq => hequals ?_
    rwa [← heq]
  have htake : (c :: (name ++ '=' :: value)).takeWhile (· ≠ '=') = c :: name := by
    rw [← List.cons_append, List.takeWhile_append_of_pos hname]
    simp
  have hdrop : (c :: (name ++ '=' :: value)).dropWhile (· ≠ '=') = '=' :: value := by
    rw [← List.cons_append, List.dropWhile_append_of_pos hname]
    simp
  rw [take, hvalues, if_neg Bool.false_ne_true, if_neg hpending, h]
  simp only [htake, hdrop]

/-- The field for dates, behind the name of its parameter and an equals sign. -/
theorem Draft.take_dateKey (query k : String) :
    take { pending := some (.query, some query) } ("--date-key=" ++ k) =
      .ok { query := some query, dateKey := some k } := by
  have htext : ("--date-key=" ++ k).toList =
      '-' :: '-' :: 'd' :: ("ate-key".toList ++ '=' :: k.toList) := by
    rw [String.toList_append]
    rfl
  have hpart : ofName? (String.ofList ('d' :: "ate-key".toList)) = some (.parameter .dateKey) := by
    decide +kernel
  rw [take_name rfl (by simp) (by decide) htext, takeName, hpart, String.ofList_toList]
  rfl

variable {environment : Environment}

/-- What a query, perhaps with the field for dates, says in an environment without a file of settings. -/
theorem Draft.finish_query (hconfiguration : environment.configuration? = none) (query : String)
    (dateKey : Option String) :
    finish { query := some query, dateKey := dateKey } environment =
      .ok { query := query, dateKey := dateKey } := by
  rw [finish, hconfiguration]
  rfl

/-- A query alone. -/
theorem read_query (hconfiguration : environment.configuration? = none) (query : String) :
    read environment ["-q", query] = .ok { query := query } := by
  rw [read, Draft.takeAll_query]
  exact Draft.finish_query hconfiguration query none

/-- A query and the field for dates. -/
theorem read_dateKey (hconfiguration : environment.configuration? = none) (query k : String) :
    read environment ["-q", query, "--date-key=" ++ k] =
      .ok { query := query, dateKey := some k } := by
  rw [read, Draft.takeAll_query, Draft.takeAll_cons (Draft.take_dateKey query k)]
  exact Draft.finish_query hconfiguration query (some k)

end Arguments

/-! ## Runs -/

namespace World

variable {σ : Type} {W : World σ} {a : Arguments} {s : σ}

/-- Without a file the settings of a run are those of the environment, overridden by arguments. -/
theorem loaded_of_configuration_eq_none (environment : Environment)
    (ha : a.configuration = none) :
    W.loaded environment a s = (environment.layer.overlay []).settings.map a.override := by
  rw [loaded_eq, fileLayer, ha]
  rfl

/-- A layer of the field for dates gives it, and leaves the other options. -/
theorem settings_dateKey {v : Json} {key : String} (hv : text? v = some key) :
    (Layer.overlay [("date_key", v)] []).settings = .ok { dateKey := key } := by
  have hchoose : choose .dateKey text? "date" [v] = .ok key := by
    rw [choose, hv]
  have hlayer : Layer.overlay [("date_key", v)] [] = [("date_key", v)] := rfl
  have hcase : Setting.caseSensitive.given [("date_key", v)] = [] := by
    simp [Setting.given, Setting.spellings]
  have hprefer : Setting.preferPatterns.given [("date_key", v)] = [] := by
    simp [Setting.given, Setting.spellings]
  have hdate : Setting.dateKey.given [("date_key", v)] = [v] := by
    simp [Setting.given, Setting.spellings]
  rw [hlayer, Layer.settings, ofNamed, hcase, hprefer, hdate, hchoose]
  rfl

/-- **The field for dates by an argument and by a variable.** In an environment without variables for
settings, a query with the parameter `--date-key` loads the field word for word and leaves the other
options. The same query with the variable `RECSIFT_DATE_KEY` instead always loads, too, and leaves the
other options as well, but if the text is taken for a truth value or a number, the field is how that
value is written. So the two agree exactly on the texts that are taken for no value, as all names are
(`Environment.not_takenAs_of_name`), or for one that is written that way.

**Proof sketch.** Foreign variables leave the layer empty, and the variable is all there is in its layer
(`Environment.layer_dateKey`). Its text becomes a value and the value a text again
(`Environment.exists_text?_value`), while an argument overrides the standard field as it is. -/
theorem loaded_dateKey (W : World σ) (s : σ) (query k : String) {before after : Environment}
    (hbefore : before.Foreign) (hafter : after.Foreign) :
    let assigned : Environment := before ++ ("RECSIFT_DATE_KEY", k) :: after
    Arguments.read (before ++ after) ["-q", query, "--date-key=" ++ k] =
        .ok { query := query, dateKey := some k } ∧
      Arguments.read assigned ["-q", query] = .ok { query := query } ∧
      W.loaded (before ++ after) { query := query, dateKey := some k } s = .ok { dateKey := k } ∧
      ∃ key, W.loaded assigned { query := query } s = .ok { dateKey := key } ∧
        (∀ m, TakenAs k m → key = m) ∧ ((∀ m, ¬TakenAs k m) → key = k) ∧
        (key = k ↔ ∀ m, TakenAs k m → m = k) := by
  intro assigned
  have hforeign : (before ++ after).configuration? = none :=
    configuration?_eq_none fun p hp =>
      (List.mem_append.1 hp).elim hbefore.ne_configuration hafter.ne_configuration
  have hassigned : assigned.configuration? = none := by
    refine configuration?_eq_none fun p hp => ?_
    rcases List.mem_append.1 hp with hp | hp
    · exact hbefore.ne_configuration hp
    rcases List.mem_cons.1 hp with rfl | hp
    · show "RECSIFT_DATE_KEY" ≠ "RECSIFT_CONFIG"
      decide
    · exact hafter.ne_configuration hp
  have hflag : W.loaded (before ++ after) { query := query, dateKey := some k } s =
      .ok { dateKey := k } := by
    rw [loaded_of_configuration_eq_none _ rfl, layer_foreign hbefore hafter]
    rfl
  have hvariable {key : String} (hkey : text? (value k) = some key) :
      W.loaded assigned { query := query } s = .ok { dateKey := key } := by
    rw [loaded_of_configuration_eq_none _ rfl, layer_dateKey hbefore hafter, settings_dateKey hkey]
    rfl
  obtain ⟨key, hkey, htaken⟩ := exists_text?_value k
  exact ⟨Arguments.read_dateKey hforeign query k, Arguments.read_query hassigned query, hflag, key,
    hvariable hkey, htaken⟩

/-- Behind a foreign variable, a sign and a zero in front of a number are kept by the argument and lost by
the variable, which keeps a name. -/
theorem loaded_dateKey_signed :
    let w : Workspace := { files := [], now := .ofSeconds 0 }
    Arguments.read [("PATH", "/bin")] ["-q", "x", "--date-key=+05"] =
        .ok { query := "x", dateKey := some "+05" } ∧
      Workspace.world.loaded [("PATH", "/bin")] { query := "x", dateKey := some "+05" } w =
        .ok { dateKey := "+05" } ∧
      Workspace.world.loaded [("PATH", "/bin"), ("RECSIFT_DATE_KEY", "+05")] { query := "x" } w =
        .ok { dateKey := "5" } ∧
      Workspace.world.loaded [("PATH", "/bin"), ("RECSIFT_DATE_KEY", "birthday")] { query := "x" } w =
        .ok { dateKey := "birthday" } := by
  intro w
  have hpath : Environment.Foreign [("PATH", "/bin")] := by
    intro p hp
    obtain rfl := List.mem_singleton.1 hp
    decide +kernel
  have hnothing : Environment.Foreign [] := fun p hp => nomatch hp
  have hwhole : IsWhole "+05".toList 5 :=
    .plus (by decide : ['0', '5'] ≠ []) (List.all_eq_true.1 (by decide)) (by decide)
  have htaken : TakenAs "+05" "5" := .whole hwhole
  have hname : ∀ m, ¬TakenAs "birthday" m := by
    refine not_takenAs_of_name (fun c hc => ?_) (by decide) (by decide +kernel)
    obtain rfl : 'b' = c := Option.some.inj hc
    decide
  obtain ⟨hread, -, hflag, key, hvariable, hkey, -⟩ :=
    loaded_dateKey Workspace.world w "x" "+05" hpath hnothing
  obtain ⟨-, -, -, key', hvariable', -, hkey', -⟩ :=
    loaded_dateKey Workspace.world w "x" "birthday" hpath hnothing
  rw [hkey "5" htaken] at hvariable
  rw [hkey' hname] at hvariable'
  exact ⟨hread, hflag, hvariable, hvariable'⟩

/-- Zeros in front of a number are kept by the argument and lost by the variable. -/
theorem loaded_dateKey_leading_zeros :
    Workspace.world.loaded [] { query := "x", dateKey := some "007" }
        { files := [], now := .ofSeconds 0 } = .ok { dateKey := "007" } ∧
      Workspace.world.loaded [("RECSIFT_DATE_KEY", "007")] { query := "x" }
        { files := [], now := .ofSeconds 0 } = .ok { dateKey := "7" } := by
  constructor <;> decide +kernel

end World

end RecordQuery
