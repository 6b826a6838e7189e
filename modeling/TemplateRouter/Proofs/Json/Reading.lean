import TemplateRouter.Proofs.Json.Numeral
import TemplateRouter.Json.Value
/-
The text of a JSON value is read back: it is one value, whose strings have the same characters and
whose numerals the same digits.
-/
namespace TemplateRouter.Json

/-- How a character of a string is read after it has been written. -/
def piece (c : Char) : StringPiece :=
  if c.toNat < 32 ∧ c ∉ ['\x08', '\x0c', '\n', '\r', '\t'] then .unit c.toNat else .char c

def pieces (s : String) : List StringPiece := s.toList.map piece

/-- What is read where a float has been written. -/
def floatSource (x : Float) : Source :=
  let bits := x.toBits.toNat
  if bits / Nat.pow 2 52 % Nat.pow 2 11 = 2047 then .null
  else if bits / Nat.pow 2 63 = 1 then
    .number (Numeral.ofDecimal (.ofBits bits)).negate
  else .number (.ofDecimal (.ofBits bits))

mutual

/-- What is read where a value has been written. -/
def source : Json → Source
  | null => .null
  | bool b => .bool b
  | int n => .number (.ofInt n)
  | float x => floatSource x
  | string s => .string (pieces s)
  | array items => .array (sources items)
  | object members => .object (memberSources members)

def sources : List Json → List Source
  | [] => []
  | v :: rest => source v :: sources rest

def memberSources : List (String × Json) → List (List StringPiece × Source)
  | [] => []
  | (k, v) :: rest => (pieces k, source v) :: memberSources rest

end

theorem hexDigit?_hexDigit : ∀ n < 16, Text.hexDigit? (hexDigit n) = some n := by decide

theorem escape?_control {c : Char} (hc : c.toNat < 32) (rest : List Char) :
    Source.escape? (['u', '0', '0', hexDigit (c.toNat / 16), hexDigit (c.toNat % 16)] ++ rest) =
      some (.unit c.toNat, rest) := by
  have hhigh := hexDigit?_hexDigit (c.toNat / 16) (by omega)
  have hlow := hexDigit?_hexDigit (c.toNat % 16) (by omega)
  have hzero : Text.hexDigit? '0' = some 0 := by decide
  have hvalue : ((0 * 16 + 0) * 16 + c.toNat / 16) * 16 + c.toNat % 16 = c.toNat := by omega
  simp only [List.cons_append, List.nil_append, Source.escape?, Source.codeUnit?, hhigh, hlow,
    hzero, hvalue, Option.map_some]

theorem string?_renderChar (fuel : Nat) (c : Char) (rest : List Char) :
    Source.string? (fuel + 1) (renderChar c ++ rest) =
      (Source.string? fuel rest).map fun (ps, rest) => (piece c :: ps, rest) := by
  unfold renderChar
  split
  -- The characters with an escape of their own come first.
  all_goals try rfl
  next hquote hbackslash hb hf hn hr ht =>
  have hspecial : c ∉ ['\x08', '\x0c', '\n', '\r', '\t'] := by
    simp only [List.mem_cons, List.not_mem_nil, or_false, not_or]
    exact ⟨hb, hf, hn, hr, ht⟩
  split
  · next hc =>
    have hpiece : piece c = .unit c.toNat := if_pos ⟨hc, hspecial⟩
    have hescape := escape?_control hc rest
    rw [List.cons_append, Source.string?, if_neg (by decide), if_pos rfl, hescape, hpiece,
      Option.bind_some]
  · next hc =>
    have hpiece : piece c = .char c := if_neg fun hand => hc hand.1
    rw [List.singleton_append, Source.string?, if_neg hquote, if_neg hbackslash, if_neg hc, hpiece]

theorem string?_renderChars {fuel : Nat} (cs rest : List Char) (hfuel : cs.length < fuel) :
    Source.string? fuel (cs.flatMap renderChar ++ '"' :: rest) = some (cs.map piece, rest) := by
  induction cs generalizing fuel with
  | nil =>
    obtain ⟨fuel, rfl⟩ := Nat.exists_eq_succ_of_ne_zero (Nat.ne_of_gt hfuel)
    rfl
  | cons c cs ih =>
    obtain ⟨fuel, rfl⟩ := Nat.exists_eq_succ_of_ne_zero (Nat.ne_of_gt (Nat.zero_lt_of_lt hfuel))
    rw [List.flatMap_cons, List.append_assoc, Nat.succ_eq_add_one, string?_renderChar,
      ih (Nat.lt_of_succ_lt_succ hfuel)]
    rfl

theorem length_le_renderChars (cs : List Char) : cs.length ≤ (cs.flatMap renderChar).length := by
  induction cs with
  | nil => exact Nat.le_refl 0
  | cons c cs ih =>
    have hone : 1 ≤ (renderChar c).length := by
      unfold renderChar
      split
      all_goals try decide
      split <;> exact Nat.succ_le_succ (Nat.zero_le _)
    rw [List.flatMap_cons, List.length_append, List.length_cons]
    omega

theorem quoted?_renderString (s : String) (rest : List Char) :
    Source.quoted? (renderString s ++ rest) = some (pieces s, rest) := by
  have hlength := length_le_renderChars s.toList
  have hquoted : Source.quoted? ('"' :: (s.toList.flatMap renderChar ++ '"' :: rest)) =
      some (pieces s, rest) := by
    refine string?_renderChars s.toList rest ?_
    rw [List.length_append]
    omega
  rw [renderString, List.cons_append, List.cons_append, List.append_assoc]
  exact hquoted

namespace Numeral

/-- A numeral begins with a sign or a digit. -/
theorem WellFormed.text_cons {n : Numeral} (h : n.WellFormed) :
    ∃ c cs, n.text = c :: cs ∧ (c = '-' ∨ Source.isDigit c = true) := by
  obtain ⟨d, ds, hwhole⟩ := List.exists_cons_of_ne_nil h.whole.ne_nil
  have hd := h.whole.digits d (by simp [hwhole])
  rw [text, hwhole]
  cases n.negative with
  | true => exact ⟨_, _, rfl, .inl rfl⟩
  | false => exact ⟨_, _, rfl, .inr hd⟩

end Numeral

theorem value?_number {n : Numeral} (h : n.WellFormed) (fuel : Nat) {rest : List Char}
    (hrest : Source.Ends rest) :
    Source.value? (fuel + 1) (n.text ++ rest) = some (.number n, rest) := by
  obtain ⟨c, cs, htext, hc⟩ := h.text_cons
  have hread : Source.value? (fuel + 1) (n.text ++ rest) =
      (Source.numeral? (n.text ++ rest)).map (Prod.map .number id) := by
    rw [htext, List.cons_append]
    unfold Source.value?
    split
    -- No other form begins with a sign or a digit.
    all_goals first
      | rfl
      | next heq =>
        obtain ⟨rfl, -⟩ := List.cons.inj heq
        exact absurd hc (by decide)
  rw [hread, Source.numeral?_append h hrest]
  rfl

/-- A text that begins with neither a blank nor a closing bracket. -/
structure Opens (cs : List Char) : Prop where
  ne_nil : cs ≠ []
  skip_eq : Source.skip cs = cs
  ne_bracket : cs.head? ≠ some ']'
  ne_brace : cs.head? ≠ some '}'

theorem opens_cons {c : Char} {cs : List Char}
    (h : Source.isBlank c = false ∧ c ≠ ']' ∧ c ≠ '}') : Opens (c :: cs) := by
  refine ⟨List.cons_ne_nil c cs, ?_, fun heq => h.2.1 (Option.some.inj heq),
    fun heq => h.2.2 (Option.some.inj heq)⟩
  exact List.dropWhile_cons_of_neg (by rw [h.1]; exact Bool.false_ne_true)

theorem opens_number {n : Numeral} (h : n.WellFormed) (rest : List Char) :
    Opens (n.text ++ rest) := by
  obtain ⟨c, cs, htext, hc⟩ := h.text_cons
  have hne : ∀ b, b ≠ '-' → Source.isDigit b = false → c ≠ b := by
    rintro b hsign hdigit rfl
    rw [hdigit] at hc
    exact hc.elim hsign Bool.false_ne_true
  rw [htext, List.cons_append]
  refine opens_cons ⟨?_, hne ']' (by decide) (by decide), hne '\x7d' (by decide) (by decide)⟩
  rw [Source.isBlank, beq_eq_false_iff_ne.mpr (hne ' ' (by decide) (by decide)),
    beq_eq_false_iff_ne.mpr (hne '\n' (by decide) (by decide)),
    beq_eq_false_iff_ne.mpr (hne '\t' (by decide) (by decide)),
    beq_eq_false_iff_ne.mpr (hne '\r' (by decide) (by decide))]
  rfl

/-- A float is written as a numeral, or as null if it is none. -/
theorem renderFloat_cases (x : Float) :
    (renderFloat x = ['n', 'u', 'l', 'l'] ∧ floatSource x = .null) ∨
      ∃ n : Numeral, n.WellFormed ∧ renderFloat x = n.text ∧ floatSource x = .number n := by
  have hwell := Numeral.wellFormed_ofDecimal (@Decimal.exponent_ofBits x.toBits.toNat)
  rw [renderFloat, floatSource]
  dsimp only
  split
  · exact .inl ⟨rfl, rfl⟩
  · refine .inr ?_
    split
    · refine ⟨_, hwell.negate, ?_, rfl⟩
      rw [Numeral.text_negate (Numeral.negative_ofDecimal _), Numeral.text_ofDecimal]
    · exact ⟨_, hwell, (Numeral.text_ofDecimal _).symm, rfl⟩

theorem opens_render (v : Json) (rest : List Char) : Opens (v.render ++ rest) := by
  cases v with
  | null => exact opens_cons (by decide)
  | bool b => cases b <;> exact opens_cons (by decide)
  | int n =>
    rw [render, ← Numeral.text_ofInt]
    exact opens_number (Numeral.wellFormed_ofInt n) rest
  | float x =>
    rw [render]
    obtain ⟨htext, -⟩ | ⟨n, hwell, htext, -⟩ := renderFloat_cases x
    · rw [htext]
      exact opens_cons (by decide)
    · rw [htext]
      exact opens_number hwell rest
  | string s => exact opens_cons (by decide)
  | array items => exact opens_cons (by decide)
  | object members => exact opens_cons (by decide)

theorem value?_string (fuel : Nat) (s : String) (rest : List Char) :
    Source.value? (fuel + 1) (renderString s ++ rest) = some (.string (pieces s), rest) := by
  have hread : Source.value? (fuel + 1) (renderString s ++ rest) =
      (Source.quoted? (renderString s ++ rest)).map fun (ps, rest) => (.string ps, rest) := rfl
  rw [hread, quoted?_renderString]
  rfl

theorem value?_array {cs : List Char} (fuel : Nat) (h : Opens cs) :
    Source.value? (fuel + 1) ('[' :: cs) =
      (Source.items? fuel cs).map fun (vs, rest) => (.array vs, rest) := by
  rw [Source.value?, h.skip_eq]
  split
  · exact absurd rfl h.ne_bracket
  · rfl

theorem value?_object {cs : List Char} (fuel : Nat) (h : Opens cs) :
    Source.value? (fuel + 1) ('{' :: cs) =
      (Source.members? fuel cs).map fun (ms, rest) => (.object ms, rest) := by
  rw [Source.value?, h.skip_eq]
  split
  · exact absurd rfl h.ne_brace
  · rfl

theorem opens_renderItems (v : Json) (items : List Json) (rest : List Char) :
    Opens (renderItems (v :: items) ++ rest) := by
  cases items with
  | nil => exact opens_render v rest
  | cons w items =>
    rw [renderItems, List.append_assoc]
    exact opens_render v _

theorem opens_renderString (s : String) (rest : List Char) : Opens (renderString s ++ rest) :=
  opens_cons (by decide)

theorem opens_renderMembers (k : String) (v : Json) (members : List (String × Json))
    (rest : List Char) : Opens (renderMembers ((k, v) :: members) ++ rest) := by
  cases members with
  | nil =>
    rw [renderMembers, List.append_assoc]
    exact opens_renderString k _
  | cons m members =>
    rw [renderMembers, List.append_assoc, List.append_assoc]
    exact opens_renderString k _

theorem render_length_pos (v : Json) : 0 < v.render.length := by
  have hne := (opens_render v []).ne_nil
  rw [List.append_nil] at hne
  exact List.length_pos_iff.mpr hne

mutual

/-- Reading takes at most two steps for each character of a value. -/
theorem value?_render : (v : Json) → (fuel : Nat) → (rest : List Char) →
    2 * v.render.length ≤ fuel → Source.Ends rest →
    Source.value? fuel (v.render ++ rest) = some (v.source, rest)
  | v, 0, _, hfuel, _ => by
    have hpos := render_length_pos v
    omega
  | null, fuel + 1, rest, _, _ => rfl
  | bool true, fuel + 1, rest, _, _ => rfl
  | bool false, fuel + 1, rest, _, _ => rfl
  | int n, fuel + 1, rest, _, hrest => by
    rw [render, ← Numeral.text_ofInt]
    exact value?_number (Numeral.wellFormed_ofInt n) fuel hrest
  | float x, fuel + 1, rest, _, hrest => by
    rw [render, source]
    obtain ⟨htext, hsource⟩ | ⟨n, hwell, htext, hsource⟩ := renderFloat_cases x
    · rw [htext, hsource]
      rfl
    · rw [htext, hsource]
      exact value?_number hwell fuel hrest
  | string s, fuel + 1, rest, _, _ => by
    rw [render]
    exact value?_string fuel s rest
  | array [], fuel + 1, rest, _, _ => rfl
  | array (v :: items), fuel + 1, rest, hfuel, _ => by
    rw [render, List.length_append, List.length_cons, List.length_singleton] at hfuel
    have hitems := items?_renderItems v items fuel rest (by omega)
    rw [render, List.append_assoc, List.singleton_append, List.cons_append,
      value?_array fuel (opens_renderItems v items _), hitems]
    rfl
  | object [], fuel + 1, rest, _, _ => rfl
  | object ((k, v) :: members), fuel + 1, rest, hfuel, _ => by
    rw [render, List.length_append, List.length_cons, List.length_singleton] at hfuel
    have hmembers := members?_renderMembers k v members fuel rest (by omega)
    rw [render, List.append_assoc, List.singleton_append, List.cons_append,
      value?_object fuel (opens_renderMembers k v members _), hmembers]
    rfl

theorem items?_renderItems : (v : Json) → (items : List Json) → (fuel : Nat) →
    (rest : List Char) → 2 * (renderItems (v :: items)).length + 1 ≤ fuel →
    Source.items? fuel (renderItems (v :: items) ++ ']' :: rest) =
      some (sources (v :: items), rest)
  | _, _, 0, _, hfuel => absurd hfuel (Nat.not_succ_le_zero _)
  | v, [], fuel + 1, rest, hfuel => by
    rw [renderItems] at hfuel
    have hv := value?_render v fuel (']' :: rest) (by omega) (Source.ends_cons (by decide))
    rw [renderItems, Source.items?, hv]
    rfl
  | v, w :: items, fuel + 1, rest, hfuel => by
    rw [renderItems, List.length_append, List.length_cons] at hfuel
    let after := renderItems (w :: items) ++ ']' :: rest
    have hv := value?_render v fuel (',' :: after) (by omega) (Source.ends_cons (by decide))
    have hitems := items?_renderItems w items fuel rest (by omega)
    have hskip := (opens_renderItems w items (']' :: rest)).skip_eq
    rw [renderItems, List.append_assoc, List.cons_append, Source.items?, hv, Option.bind_some]
    change (Source.items? fuel (Source.skip _)).map _ = _
    rw [hskip, hitems]
    rfl

theorem members?_renderMembers : (k : String) → (v : Json) → (members : List (String × Json)) →
    (fuel : Nat) → (rest : List Char) → 2 * (renderMembers ((k, v) :: members)).length + 1 ≤ fuel →
    Source.members? fuel (renderMembers ((k, v) :: members) ++ '}' :: rest) =
      some (memberSources ((k, v) :: members), rest)
  | _, _, _, 0, _, hfuel => absurd hfuel (Nat.not_succ_le_zero _)
  | k, v, [], fuel + 1, rest, hfuel => by
    rw [renderMembers, List.length_append, List.length_cons] at hfuel
    have hv := value?_render v fuel ('}' :: rest) (by omega) (Source.ends_cons (by decide))
    have hskip := (opens_render v ('}' :: rest)).skip_eq
    rw [renderMembers, List.append_assoc, List.cons_append, Source.members?, quoted?_renderString,
      Option.bind_some]
    change (Source.value? fuel (Source.skip _)).bind _ = _
    rw [hskip, hv]
    rfl
  | k, v, (k', w) :: members, fuel + 1, rest, hfuel => by
    rw [renderMembers, List.length_append, List.length_append, List.length_cons,
      List.length_cons] at hfuel
    let after := renderMembers ((k', w) :: members) ++ '}' :: rest
    have hv := value?_render v fuel (',' :: after) (by omega) (Source.ends_cons (by decide))
    have hmembers := members?_renderMembers k' w members fuel rest (by omega)
    have hskip := (opens_render v (',' :: after)).skip_eq
    have hskip' := (opens_renderMembers k' w members ('}' :: rest)).skip_eq
    rw [renderMembers, List.append_assoc, List.append_assoc, List.cons_append, List.cons_append,
      Source.members?, quoted?_renderString, Option.bind_some]
    change (Source.value? fuel (Source.skip _)).bind _ = _
    rw [hskip, hv, Option.bind_some]
    change (Source.members? fuel (Source.skip _)).map _ = _
    rw [hskip', hmembers]
    rfl

end

/-- The text of a value is one value and nothing else. -/
theorem parse?_render (v : Json) : Source.parse? v.render = some v.source := by
  have hskip := (opens_render v []).skip_eq
  have hread := value?_render v (2 * v.render.length + 1) [] (Nat.le_succ _) Source.ends_nil
  rw [List.append_nil] at hskip hread
  rw [Source.parse?, hskip, hread]
  rfl

end TemplateRouter.Json
