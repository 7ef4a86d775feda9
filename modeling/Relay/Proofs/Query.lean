import Relay.Proofs.Target
import Relay.Proofs.TextMap
import Relay.Proofs.Upload

/-!
Query strings and the maps they stand for. What is written of a map is read as that map, so a map has
one written form, in which the names stand in order. A text that is read keeps the last value of each
name, and the query of the URL that a request is relayed to says the same as the query of the request.
-/

namespace Relay

theorem Utf8.decodeLossy_encode (s : String) : decodeLossy (encode s) = s := by
  unfold decodeLossy encode
  rw [scan_encodeChars, List.map_map]
  exact (congrArg String.ofList (List.map_id _)).trans String.ofList_toList

namespace Percent

theorem hexByte?_hexDigit :
    ∀ n < 16, hexByte? (UInt8.ofNat (Ascii.hexDigit n).toNat) = some n := by
  decide

theorem utf8_escape (b : UInt8) :
    (escape b).flatMap String.utf8EncodeChar =
      [37, UInt8.ofNat (Ascii.hexDigit (b.toNat / 16)).toNat,
        UInt8.ofNat (Ascii.hexDigit (b.toNat % 16)).toNat] := by
  have hb := b.toNat_lt
  rw [Utf8.encodeChars_ascii]
  · rfl
  · intro c hc
    simp only [escape, List.mem_cons, List.not_mem_nil, or_false] at hc
    rcases hc with rfl | rfl | rfl
    · decide
    · exact hexDigit_ascii _ (by omega)
    · exact hexDigit_ascii _ (by omega)

theorem decode_escape (b : UInt8) (rest : Bytes) :
    decode ((escape b).flatMap String.utf8EncodeChar ++ rest) = b :: decode rest := by
  have hb := b.toNat_lt
  have hhigh := hexByte?_hexDigit (b.toNat / 16) (by omega)
  have hlow := hexByte?_hexDigit (b.toNat % 16) (by omega)
  -- the two digits are the quotient and the remainder of the byte
  have hbyte : 16 * (b.toNat / 16) + b.toNat % 16 = b.toNat := by omega
  rw [utf8_escape]
  show decode (37 :: _ :: _ :: rest) = _
  rw [decode]
  simp only [hhigh, hlow, hbyte, UInt8.ofNat_toNat]

theorem escape_avoids (b : UInt8) :
    ∀ x ∈ (escape b).flatMap String.utf8EncodeChar, x ≠ 43 ∧ x ≠ 38 ∧ x ≠ 61 := by
  have hdigit : ∀ n < 16, UInt8.ofNat (Ascii.hexDigit n).toNat ≠ 43 ∧
      UInt8.ofNat (Ascii.hexDigit n).toNat ≠ 38 ∧ UInt8.ofNat (Ascii.hexDigit n).toNat ≠ 61 := by
    decide
  have hb := b.toNat_lt
  intro x hx
  rw [utf8_escape, List.mem_cons, List.mem_cons, List.mem_singleton] at hx
  rcases hx with rfl | rfl | rfl
  · decide
  · exact hdigit _ (by omega)
  · exact hdigit _ (by omega)

theorem decode_cons_of_ne {b : UInt8} (h : b ≠ 37) (rest : Bytes) :
    decode (b :: rest) = b :: decode rest := by
  rw [decode]
  rintro _ _ _ rfl
  exact absurd rfl h

end Percent

namespace Query

def writtenBytes (s : String) : Bytes := (encodeText s).flatMap String.utf8EncodeChar

/-! ### One name or value -/

section

variable (b : UInt8)

theorem utf8_ascii (h : b.toNat < 128) :
    [Char.ofNat b.toNat].flatMap String.utf8EncodeChar = [b] := by
  have hchar : (Char.ofNat b.toNat).toNat = b.toNat := Utf8.toNat_ofNat (.inl (by omega))
  rw [Utf8.encodeChars_ascii fun c hc => by rw [List.mem_singleton.1 hc, hchar]; exact h,
    List.map_singleton, hchar, UInt8.ofNat_toNat]

theorem isPlain_spec (h : isPlain b = true) :
    [Char.ofNat b.toNat].flatMap String.utf8EncodeChar = [b] ∧
      b ≠ 43 ∧ b ≠ 37 ∧ b ≠ 38 ∧ b ≠ 61 := by
  have hascii : b.toNat < 128 := by
    rw [isPlain, Bool.and_eq_true] at h
    exact of_decide_eq_true h.1
  refine ⟨utf8_ascii b hascii, ?_, ?_, ?_, ?_⟩
  -- the signs with a meaning of their own are not plain
  all_goals
    rintro rfl
    exact absurd h (by decide)

theorem utf8_plus : ['+'].flatMap String.utf8EncodeChar = [43] :=
  utf8_ascii 43 (by decide)

theorem encodeByte_cases :
    (b = 32 ∧ encodeByte b = ['+']) ∨
      (isPlain b = true ∧ encodeByte b = [Char.ofNat b.toNat]) ∨
      encodeByte b = Percent.escape b := by
  unfold encodeByte
  by_cases hblank : b.toNat = 32
  · rw [if_pos hblank]
    exact .inl ⟨UInt8.toNat_inj.1 hblank, rfl⟩
  · rw [if_neg hblank]
    by_cases hplain : isPlain b = true
    · rw [if_pos hplain]
      exact .inr (.inl ⟨hplain, rfl⟩)
    · rw [if_neg hplain]
      exact .inr (.inr rfl)

theorem decode_encodeByte (rest : Bytes) :
    Percent.decode (((encodeByte b).flatMap String.utf8EncodeChar).map
      (fun b => if b = 43 then 32 else b) ++ rest) = b :: Percent.decode rest := by
  rcases encodeByte_cases b with ⟨rfl, h⟩ | ⟨hplain, h⟩ | h
  · -- a blank went out as a plus, which is turned back before the escapes are read
    rw [h, utf8_plus, List.map_singleton, if_pos rfl]
    exact Percent.decode_cons_of_ne (by decide) rest
  · obtain ⟨hself, hplus, hpercent, -, -⟩ := isPlain_spec b hplain
    rw [h, hself, List.map_singleton, if_neg hplus]
    exact Percent.decode_cons_of_ne hpercent rest
  · have hkeep : ∀ x ∈ (Percent.escape b).flatMap String.utf8EncodeChar,
        (if x = 43 then 32 else x) = x := fun x hx => if_neg (Percent.escape_avoids b x hx).1
    rw [h, List.map_congr_left hkeep, List.map_id']
    exact Percent.decode_escape b rest

theorem encodeByte_separates :
    ∀ x ∈ (encodeByte b).flatMap String.utf8EncodeChar, x ≠ 38 ∧ x ≠ 61 := by
  intro x hx
  rcases encodeByte_cases b with ⟨-, h⟩ | ⟨hplain, h⟩ | h
  · rw [h, utf8_plus, List.mem_singleton] at hx
    rw [hx]
    decide
  · obtain ⟨hself, -, -, hamp, heq⟩ := isPlain_spec b hplain
    rw [h, hself, List.mem_singleton] at hx
    rw [hx]
    exact ⟨hamp, heq⟩
  · rw [h] at hx
    exact (Percent.escape_avoids b x hx).2

end

theorem writtenBytes_eq (s : String) :
    writtenBytes s =
      (Utf8.encode s).flatMap fun b => (encodeByte b).flatMap String.utf8EncodeChar :=
  List.flatMap_assoc

theorem writtenBytes_separates (s : String) : ∀ x ∈ writtenBytes s, x ≠ 38 ∧ x ≠ 61 := by
  intro x hx
  rw [writtenBytes_eq] at hx
  obtain ⟨b, -, hx⟩ := List.mem_flatMap.1 hx
  exact encodeByte_separates b x hx

theorem decodeText_writtenBytes (s : String) : decodeText (writtenBytes s) = s := by
  have hbytes : ∀ bs : Bytes, Percent.decode
      ((bs.flatMap fun b => (encodeByte b).flatMap String.utf8EncodeChar).map
        fun b => if b = 43 then 32 else b) = bs := by
    intro bs
    induction bs with
    | nil => rfl
    | cons b bs ih =>
      rw [List.flatMap_cons, List.map_append, decode_encodeByte, ih]
  unfold decodeText
  rw [writtenBytes_eq, hbytes, Utf8.decodeLossy_encode]

/-! ### Pairs -/

theorem utf8_encodePair (p : String × String) :
    (encodePair p).flatMap String.utf8EncodeChar = writtenBytes p.1 ++ 61 :: writtenBytes p.2 := by
  have hequals : String.utf8EncodeChar '=' = [61] := by decide
  rw [encodePair, List.flatMap_append, List.flatMap_cons, hequals, List.singleton_append,
    writtenBytes, writtenBytes]

theorem decodePair_written (p : String × String) :
    decodePair (writtenBytes p.1 ++ 61 :: writtenBytes p.2) = p := by
  have hname : ∀ x ∈ writtenBytes p.1, decide (x ≠ 61) = true := fun x hx =>
    decide_eq_true (writtenBytes_separates p.1 x hx).2
  unfold decodePair
  rw [List.takeWhile_append_of_pos hname, List.dropWhile_append_of_pos hname,
    List.takeWhile_cons_of_neg (by decide), List.dropWhile_cons_of_neg (by decide), List.append_nil,
    List.drop_succ_cons, List.drop_zero, decodeText_writtenBytes, decodeText_writtenBytes]

theorem utf8_intercalate (ls : List (List Char)) :
    (['&'].intercalate ls).flatMap String.utf8EncodeChar =
      [38].intercalate (ls.map (·.flatMap String.utf8EncodeChar)) := by
  induction ls with
  | nil => rfl
  | cons l ls ih =>
    cases ls with
    | nil =>
      rw [List.map_singleton, List.intercalate_singleton, List.intercalate_singleton]
    | cons l' ls =>
      rw [List.intercalate_cons_cons, List.flatMap_append, List.flatMap_append, ih, List.map_cons,
        List.map_cons, List.map_cons, List.intercalate_cons_cons]
      rfl

theorem pairs_of_serialize {m : TextMap} {q : String} (h : serialize m = some q) :
    pairs q = m.entries := by
  unfold serialize at h
  split at h
  · cases h
  rename_i hne
  have hentries : m.entries ≠ [] := fun hnil => hne (List.isEmpty_iff.2 hnil)
  -- the pieces between the ampersands are the pairs that were written, and none is empty
  have hsplit : (Utf8.encode q).splitOn 38 =
      m.entries.map fun p => writtenBytes p.1 ++ 61 :: writtenBytes p.2 := by
    have hbytes : (m.entries.map encodePair).map (·.flatMap String.utf8EncodeChar) =
        m.entries.map fun p => writtenBytes p.1 ++ 61 :: writtenBytes p.2 := by
      simp only [List.map_map, Function.comp_def, utf8_encodePair]
    rw [← Option.some.inj h, Utf8.encode_ofList, utf8_intercalate, hbytes]
    apply List.splitOn_intercalate
    · intro piece hpiece hamp
      obtain ⟨p, -, rfl⟩ := List.mem_map.1 hpiece
      rw [List.mem_append, List.mem_cons] at hamp
      rcases hamp with hamp | hamp | hamp
      · exact (writtenBytes_separates p.1 38 hamp).1 rfl
      · exact absurd hamp (by decide)
      · exact (writtenBytes_separates p.2 38 hamp).1 rfl
    · simpa using hentries
  have hkeep : (m.entries.map fun p => writtenBytes p.1 ++ 61 :: writtenBytes p.2).filter (· ≠ []) =
      m.entries.map fun p => writtenBytes p.1 ++ 61 :: writtenBytes p.2 := by
    rw [List.filter_eq_self]
    intro piece hpiece
    obtain ⟨p, -, rfl⟩ := List.mem_map.1 hpiece
    simp
  unfold pairs
  rw [hsplit, hkeep, List.map_map]
  exact (List.map_congr_left fun p _ => decodePair_written p).trans (List.map_id _)

/-! ### Maps -/

theorem serialize_eq_none_iff {m : TextMap} : serialize m = none ↔ m.isEmpty = true := by
  unfold serialize
  split
  · rename_i hempty
    exact iff_of_true rfl hempty
  · rename_i hempty
    exact iff_of_false (by simp) hempty

theorem parse_empty : parse "" = .empty := by
  have hbytes : Utf8.encode "" = [] := by simp [Utf8.encode]
  rw [parse, pairs, hbytes]
  rfl

theorem parse_serialize (m : TextMap) : parse ((serialize m).getD "") = m := by
  cases h : serialize m with
  | none =>
    have hempty : m.entries = [] := List.isEmpty_iff.1 (serialize_eq_none_iff.1 h)
    rw [Option.getD_none, parse_empty]
    exact TextMap.ext hempty.symm
  | some q =>
    show TextMap.ofList (pairs q) = m
    rw [pairs_of_serialize h, TextMap.ofList_entries]

theorem toInbound_query {r : Http.Request} {body : Bytes} {max : UInt64} {i : Inbound}
    (h : r.toInbound body max = .ok i) : i.query = parse (r.uri.query.getD "") := by
  have hm := (Http.Request.toInbound_ok h).1
  rw [Http.Request.toInbound_eq hm] at h
  split at h
  · cases h
  · rw [← Except.ok.inj h]
    -- no query is read like an empty one
    cases r.uri.query with
    | none => rw [Option.map_none, Option.getD_none, Option.getD_none, parse_empty]
    | some q => rw [Option.map_some, Option.getD_some, Option.getD_some]

/-- Writing and reading a query are inverse to each other on maps, and reading keeps the last value of
each name. Texts that are read as the same map are written alike, with the names in order. The query of
a request survives the way through the target of an accepted configuration. -/
theorem query_survives :
    (∀ m : TextMap, parse ((serialize m).getD "") = m ∧ (serialize m = none ↔ m.isEmpty = true)) ∧
    (∀ s key, (parse s).get? key = ((pairs s).filter (·.1 == key)).getLast?.map (·.2)) ∧
    (∀ s t, (parse s = parse t ↔ serialize (parse s) = serialize (parse t)) ∧
      ∀ q, serialize (parse s) = some q → ((pairs q).map (·.1)).Pairwise (· < ·)) ∧
    (∀ (r : Http.Request) body max i, r.toInbound body max = .ok i →
      i.query = parse (r.uri.query.getD "")) ∧
    ∀ c : Config, c.validate = .ok c → ∃ t,
      Target.ofText c.origin.origin c.origin.mountPrefixes = .ok t ∧
      ∀ path s, ((∃ u, t.resolve path (parse s) = .ok u) ↔
          Mount.strip c.origin.mountPrefixes path = "" ∨
            (Mount.strip c.origin.mountPrefixes path).toList.head? = some '/') ∧
        ∀ u, t.resolve path (parse s) = .ok u → parse (u.query.getD "") = parse s := by
  refine ⟨fun m => ⟨parse_serialize m, serialize_eq_none_iff⟩, fun s key => ?_, fun s t => ⟨?_, ?_⟩,
    fun r body max i => toInbound_query, fun c hc => ?_⟩
  · exact TextMap.get?_ofList (pairs s) key
  · -- the written form gives the map back, so it tells maps apart
    refine ⟨fun h => congrArg serialize h, fun h => ?_⟩
    rw [← parse_serialize (parse s), h, parse_serialize]
  · intro q hq
    rw [pairs_of_serialize hq]
    exact List.pairwise_map.2 (parse s).sorted
  · obtain ⟨t, a, htext, -, hmounts, horigin⟩ := Target.ofText_of_validate hc
    refine ⟨t, htext, fun path s => ⟨?_, fun u hu => ?_⟩⟩
    · rw [Target.resolve_eq horigin, Target.logicalPath, hmounts, ← String.toList_eq_nil_iff]
      split
      · rename_i hpath
        exact iff_of_true ⟨_, rfl⟩ hpath
      · rename_i hpath
        exact iff_of_false (by simp) hpath
    · rw [(Target.resolve_ok horigin hu).2.2, parse_serialize]

/-- A query with a name that is given twice, bytes that are no text, half an escape and empty pieces. -/
theorem query_survives_malformed :
    let c : Config := { origin := { origin := "http://us:er@127.0.0.1:80", mountPrefixes := ["/api"] } }
    let q := "b=2&a+%26=%zz&&b=%FFx+&=%3D"
    let r : Http.Request := ⟨"GET", ⟨"/api//x?y", some q⟩, [], .complete []⟩
    c.validate = .ok c ∧ ∃ i t u, r.toInbound [] 0 = .ok i ∧
      Target.ofText c.origin.origin c.origin.mountPrefixes = .ok t ∧
      t.resolve i.path i.query = .ok u ∧ parse (u.query.getD "") = parse q ∧
      (parse q).get? "b" = some "\uFFFDx " := by
  intro c q r
  have hvalid : c.validate = .ok c := by decide +kernel
  have hin := @Http.Request.toInbound_eq r [] 0 .get (by decide +kernel)
  rw [if_neg (by decide)] at hin
  obtain ⟨-, hlast, -, hquery, hconfig⟩ := query_survives
  obtain ⟨t, htext, hresolve⟩ := hconfig c hvalid
  obtain ⟨hiff, hsame⟩ := hresolve "/api//x?y" q
  obtain ⟨u, hu⟩ := hiff.2 (.inr (by decide +kernel))
  refine ⟨hvalid, _, t, u, hin, htext, ?_, hsame u hu, ?_⟩
  · rw [hquery r [] 0 _ hin]
    exact hu
  · rw [hlast]
    decide +kernel

end Query

end Relay
