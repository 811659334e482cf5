import Mathlib.Data.List.Basic
import OtlpHelper.Client.Env
import OtlpHelper.Client.Stdlib

-- The header text `WithHeadersString` and the `OTLP_*HEADERS` variables read: "name=value"
-- pairs joined by commas. `parseHeadersString` reads back the text of every non-empty map
-- whose names hold no "," or "=" and whose values hold no ",".
namespace OtlpHelper.Client

-- A header map written as its "name=value" pairs joined by ",", in the map's order.
def headersString (h : StringMap) : String :=
  String.intercalate "," (h.map fun e => e.1 ++ "=" ++ e.2)

section Split

variable {sep : Char}

-- A chunk free of the separator stays whole in front of the rest.
theorem splitChars_append {w : List Char} (hw : ∀ c ∈ w, c ≠ sep) (rest : List Char) :
    splitChars sep (w ++ sep :: rest) = w :: splitChars sep rest := by
  induction w with
  | nil => simp [splitChars]
  | cons c w ih => rw [List.cons_append, splitChars, if_neg (hw c (.head _)), ih fun d hd => hw d (.tail _ hd)]

theorem splitChars_of_forall_ne {w : List Char} (hw : ∀ c ∈ w, c ≠ sep) : splitChars sep w = [w] := by
  induction w with
  | nil => rfl
  | cons c w ih => rw [splitChars, if_neg (hw c (.head _)), ih fun d hd => hw d (.tail _ hd)]

-- `strings.Split` undoes the join of chunks free of the separator.
theorem splitChars_join {p : List Char} (hp : ∀ c ∈ p, c ≠ sep) {ws : List (List Char)}
    (hws : ∀ w ∈ ws, ∀ c ∈ w, c ≠ sep) : splitChars sep (p ++ ws.flatMap (sep :: ·)) = p :: ws := by
  induction ws generalizing p with
  | nil => rw [List.flatMap_nil, List.append_nil, splitChars_of_forall_ne hp]
  | cons w ws ih =>
    rw [List.flatMap_cons, List.cons_append, splitChars_append hp,
      ih (hws w (.head _)) fun v hv => hws v (.tail _ hv)]

-- `strings.SplitN(s, sep, 2)` cuts at the first separator.
theorem goSplitN2_append {k : String} (hk : ∀ c ∈ k.toList, c ≠ sep) (v : String) :
    goSplitN2 (k ++ String.singleton sep ++ v) sep = [k, v] := by
  have hspan : (k ++ String.singleton sep ++ v).toList.span (· ≠ sep) = (k.toList, sep :: v.toList) := by
    have hl : (k ++ String.singleton sep ++ v).toList = k.toList ++ sep :: v.toList := by
      simp [String.toList, String.singleton, String.push]
    rw [hl, List.span_eq_take_drop, List.takeWhile_append_of_pos (by simpa using hk),
      List.dropWhile_append_of_pos (by simpa using hk)]
    simp
  simp only [goSplitN2, hspan]
  rfl

end Split

theorem StringMap.set_of_not_any {m : StringMap} {k : String} (h : ¬ m.any (fun e => e.1 = k)) (v : String) :
    m.set k v = m ++ [(k, v)] :=
  if_neg h

theorem intercalate_go_toList (acc s : String) (ws : List String) :
    (String.intercalate.go acc s ws).toList = acc.toList ++ ws.flatMap fun w => s.toList ++ w.toList := by
  simp only [String.toList]
  induction ws generalizing acc with
  | nil => simp [String.intercalate.go]
  | cons w ws ih => simp [String.intercalate.go, ih, List.append_assoc]

-- The loop of `parseHeadersString` over the pairs of a map whose names are new to the map it
-- builds: each pair is added at the end.
theorem foldlM_set (acc ps : StringMap) (hk : ((acc ++ ps).map Prod.fst).Nodup)
    (hps : ∀ e ∈ ps, ∀ c ∈ e.1.toList, c ≠ '=') :
    (ps.map fun e => e.1 ++ "=" ++ e.2).foldlM (fun h part =>
      match goSplitN2 part '=' with
      | [k, v] => .ok (h.set k v)
      | _ => .error ("header " ++ goQuote part ++ " is invalid")) acc = GoResult.ok (acc ++ ps) := by
  induction ps generalizing acc with
  | nil => simp
  | cons e ps ih =>
    obtain ⟨k, v⟩ := e
    have hnew : ¬ acc.any (fun e' => e'.1 = k) := by
      rw [List.map_append, List.Nodup, List.pairwise_append] at hk
      simp only [List.any_eq_true, decide_eq_true_eq, not_exists, not_and]
      exact fun x hx hxk => hk.2.2 x.1 (List.mem_map_of_mem Prod.fst hx) k (.head _) hxk
    rw [List.map_cons, List.foldlM_cons,
      show goSplitN2 (k ++ "=" ++ v) '=' = [k, v] from goSplitN2_append (hps (k, v) (.head _)) v]
    simp only [GoResult.ok_bind, StringMap.set_of_not_any hnew]
    rw [ih (acc ++ [(k, v)]) (by simpa using hk) fun e' he' => hps e' (.tail _ he')]
    simp

theorem toList_headerPair (k v : String) : (k ++ "=" ++ v).toList = k.toList ++ '=' :: v.toList := by
  simp [String.toList]

-- The text of a non-empty map split at its commas: the "name=value" texts of its pairs.
theorem goSplit_headersString {h : StringMap} (hne : h ≠ [])
    (hcomma : ∀ e ∈ h, ',' ∉ e.1.toList ∧ ',' ∉ e.2.toList) :
    goSplit (headersString h) ',' = h.map fun e => e.1 ++ "=" ++ e.2 := by
  obtain ⟨e, es, rfl⟩ := List.exists_cons_of_ne_nil hne
  have hpart : ∀ e' ∈ e :: es, ∀ c ∈ (e'.1 ++ "=" ++ e'.2).toList, c ≠ ',' := by
    rintro e' he' c hc rfl
    rw [toList_headerPair, List.mem_append, List.mem_cons] at hc
    rcases hc with hc | hc | hc
    · exact (hcomma e' he').1 hc
    · cases hc
    · exact (hcomma e' he').2 hc
  have hjoin : (headersString (e :: es)).toList =
      (e.1 ++ "=" ++ e.2).toList ++ (es.map fun e => (e.1 ++ "=" ++ e.2).toList).flatMap (',' :: ·) := by
    simp only [headersString, List.map_cons, String.intercalate, intercalate_go_toList, List.flatMap_map]
    rfl
  rw [goSplit, hjoin,
    splitChars_join (hpart e (.head _)) (List.forall_mem_map.2 fun e' he' => hpart e' (.tail _ he'))]
  simp only [List.map_cons, List.map_map]
  rfl

-- Every non-empty header map whose names hold no "," or "=" and whose values hold no "," is
-- read back from its text, whatever the order of its pairs.
theorem parseHeadersString_headersString (h : StringMap) (hne : h ≠ []) (hkeys : (h.map Prod.fst).Nodup)
    (hname : ∀ e ∈ h, ',' ∉ e.1.toList ∧ '=' ∉ e.1.toList) (hvalue : ∀ e ∈ h, ',' ∉ e.2.toList) :
    parseHeadersString (headersString h) = .ok h := by
  rw [parseHeadersString, goSplit_headersString hne fun e he => ⟨(hname e he).1, hvalue e he⟩]
  exact foldlM_set [] h hkeys fun e he c hc hceq => (hname e he).2 (hceq ▸ hc)

theorem parseHeadersString_headersString_twoPairs :
    parseHeadersString (headersString [("key1", "value1"), ("", "a=b")]) = .ok [("key1", "value1"), ("", "a=b")] :=
  parseHeadersString_headersString _ (by simp) (by decide) (by decide) (by decide)

-- The empty map is written as the empty string, which `strings.Split` reads as one empty
-- part without "=": the text is rejected, and so is `OTLP_HEADERS` set to it.
theorem parseHeadersString_empty :
    headersString [] = "" ∧ parseHeadersString "" = .error "header \"\" is invalid" ∧
    DefaultClientOptions Stdlib.lib (fun name => if name = "OTLP_HEADERS" then some "" else none) [] {} =
      .error "header \"\" is invalid" :=
  ⟨rfl, rfl, by decide⟩

end OtlpHelper.Client
