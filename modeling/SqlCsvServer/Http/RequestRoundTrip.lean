import SqlCsvServer.Foundation.Decimal
import SqlCsvServer.Http.TransferEncoding

/-!
# What a client sends is read back

The request line, the header lines and the body, whatever the pieces they arrive in.
-/

namespace SqlCsvServer
namespace Http

open Foundation Common Engine

/-!
## A request on the wire
-/

def headerLine (header : HttpHeader) : Bytes :=
  header.name ++ ascii ": " ++ header.value

def requestLine (request : HttpRequest) : Bytes :=
  request.method ++ Byte.space :: (request.path ++ Byte.space :: request.version)

/-- The head: the request line, the header lines and an empty line. -/
def renderHead (request : HttpRequest) : Bytes :=
  requestLine request ++ (lineEnd ++ linesText (request.headers.map headerLine))

/-- A word of the request line. -/
structure IsWord (width : Nat) (word : Bytes) : Prop where
  ne : word ≠ []
  fits : word.length ≤ width
  bytes : forall b, b ∈ word -> isSpace b = false ∧ b ≠ Byte.nul

def LineFree (text : Bytes) : Prop :=
  Byte.carriageReturn ∉ text ∧ Byte.lineFeed ∉ text ∧ NulFree text

structure IsHeader (header : HttpHeader) : Prop where
  nameTrimmed : trimWhitespace header.name = header.name
  nameColon : 0x3A ∉ header.name
  name : LineFree header.name
  valueTrimmed : trimWhitespace header.value = header.value
  value : LineFree header.value

/-- A request that a client can send. -/
structure Sendable (request : HttpRequest) : Prop where
  method : IsWord 15 request.method
  path : IsWord 127 request.path
  version : request.version = ascii "HTTP/1.1"
  headers : forall header, header ∈ request.headers -> IsHeader header
  encoding : httpRequestGetHeader request (ascii "Transfer-Encoding") = none
  length : forall value,
    httpRequestGetHeader request (ascii "Content-Length") = some value ->
      value = decimalNat request.body.length
  noLength : httpRequestGetHeader request (ascii "Content-Length") = none ->
    request.body = []
  bodyLength : request.bodyLength = request.body.length

/-!
## Numbers
-/

theorem digitsValue_decimalNat (n : Nat) : digitsValue (decimalNat n) = n := by
  have hdigit : forall d, d < 10 -> (Nat.digitChar d).toNat.toUInt8.toNat - 0x30 = d := by
    decide
  induction n using Nat.strongRecOn with
  | _ n ih =>
      unfold decimalNat at ih ⊢
      rcases Nat.lt_or_ge n 10 with hsmall | hlarge
      · rw [Nat.toDigits_of_lt_base hsmall]
        change 0 * 10 + ((Nat.digitChar n).toNat.toUInt8.toNat - 0x30) = n
        rw [hdigit n hsmall, Nat.zero_mul, Nat.zero_add]
      · have hfront := ih (n / 10) (Nat.div_lt_self (by omega) (by decide))
        rw [Nat.toDigits_of_base_le (by decide) hlarge, List.map_append]
        unfold digitsValue at hfront ⊢
        rw [List.foldl_append, hfront]
        change n / 10 * 10 + ((Nat.digitChar (n % 10)).toNat.toUInt8.toNat - 0x30) = n
        rw [hdigit _ (Nat.mod_lt n (by decide))]
        omega

theorem strtol_digits {digits : Bytes} (hne : digits ≠ [])
    (hdigits : forall b, b ∈ digits -> isDigit b = true)
    (hrange : (digitsValue digits : Int) ≤ longMax) :
    strtol digits =
      { value := digitsValue digits
        rest := []
        noConversion := false
        outOfRange := false } := by
  have hfirst : forall b : Byte, isDigit b = true ->
      isSpace b = false ∧ b ≠ 0x2D ∧ b ≠ 0x2B := by
    decide +kernel
  have hpositive : ¬ (digitsValue digits : Int) < longMin := by
    unfold longMin
    omega
  cases digits with
  | nil => exact absurd rfl hne
  | cons b digits =>
      rcases hfirst b (hdigits b List.mem_cons_self) with ⟨hspace, hminus, hplus⟩
      have hskip : (b :: digits).dropWhile isSpace = b :: digits := by
        rw [List.dropWhile_cons, if_neg (by rw [hspace]; exact nofun)]
      have htakes : (b :: digits).takeWhile isDigit = b :: digits :=
        List.takeWhile_eq_self_iff.mpr hdigits
      have hdrops : (b :: digits).dropWhile isDigit = [] :=
        List.dropWhile_eq_nil_iff.mpr hdigits
      simp only [strtol, hskip]
      split
      · next heq => exact absurd (List.cons.inj heq).1 hminus
      · next heq => exact absurd (List.cons.inj heq).1 hplus
      · simp only [htakes, hdrops, hne, hpositive, Int.not_lt.mpr hrange, if_false,
          Bool.false_eq_true]

theorem parseIntStrict_decimalNat {n : Nat} (h : (n : Int) ≤ intMax) :
    parseIntStrict (decimalNat n) = some n := by
  have hne := decimalNat_ne_nil n
  have hlong : (digitsValue (decimalNat n) : Int) ≤ longMax := by
    rw [digitsValue_decimalNat]
    exact Int.le_trans h (by decide)
  have hrange : ¬ ((n : Int) < intMin ∨ intMax < (n : Int)) := by
    unfold intMin
    omega
  unfold parseIntStrict
  simp only [hne, if_false, strtol_digits hne (decimalNat_digits n) hlong,
    digitsValue_decimalNat, hrange]
  rfl

/-!
## The lines
-/

theorem crlfLines_line {line : Bytes} (h : Byte.carriageReturn ∉ line) (rest : Bytes) :
    crlfLines (line ++ (lineEnd ++ rest)) = line :: crlfLines rest := by
  induction line with
  | nil => rfl
  | cons b line ih =>
      have hb : b ≠ Byte.carriageReturn := fun hsame => h (hsame ▸ List.mem_cons_self)
      have hmore := ih fun hmem => h (List.mem_cons_of_mem _ hmem)
      cases htext : line ++ (lineEnd ++ rest) with
      | nil =>
          rw [htext] at hmore
          cases hmore
      | cons c more =>
          rw [htext] at hmore
          rw [List.cons_append, htext, crlfLines, if_neg (fun hend => hb hend.1), hmore,
            List.modifyHead_cons]

theorem splitLine_line {line : Bytes} (hreturn : Byte.carriageReturn ∉ line)
    (hnul : NulFree line) (rest : Bytes) :
    splitLine (line ++ (lineEnd ++ rest)) = some (line, rest) := by
  induction line with
  | nil => rfl
  | cons b line ih =>
      have hb : b ≠ Byte.carriageReturn := fun hsame => hreturn (hsame ▸ List.mem_cons_self)
      have hne : b ≠ Byte.nul := fun hsame => hnul (hsame ▸ List.mem_cons_self)
      have hmore := ih (fun hmem => hreturn (List.mem_cons_of_mem _ hmem))
        fun hmem => hnul (List.mem_cons_of_mem _ hmem)
      rw [List.cons_append, splitLine, if_neg hne, if_neg (fun hend => hb hend.1), hmore,
        Option.map_some]

theorem linesText_cons (line : Bytes) (lines : List Bytes) :
    linesText (line :: lines) = line ++ (lineEnd ++ linesText lines) := by
  unfold linesText
  rw [List.map_cons, List.flatten_cons, List.append_assoc, List.append_assoc]

theorem crlfLines_linesText {lines : List Bytes}
    (h : forall line, line ∈ lines -> Byte.carriageReturn ∉ line) :
    crlfLines (linesText lines) = lines ++ [[]] := by
  induction lines with
  | nil => rfl
  | cons line lines ih =>
      rw [linesText_cons, crlfLines_line (h line List.mem_cons_self),
        ih fun other hother => h other (List.mem_cons_of_mem _ hother)]
      rfl

theorem crlfLines_append (front rest : Bytes) :
    exists lines, lines ≠ [] ∧
      crlfLines (front ++ (lineEnd ++ rest)) = lines ++ crlfLines rest := by
  fun_induction crlfLines front with
  | case1 => exact ⟨[[]], List.cons_ne_nil _ _, rfl⟩
  | case2 b =>
      refine ⟨[[b]], List.cons_ne_nil _ _, ?_⟩
      have hnot : ¬ (b = Byte.carriageReturn ∧ Byte.carriageReturn = Byte.lineFeed) :=
        fun hend => absurd hend.2 (by decide)
      change crlfLines (b :: Byte.carriageReturn :: Byte.lineFeed :: rest) = _
      rw [crlfLines, if_neg hnot]
      rfl
  | case3 b c more hend ih =>
      rcases ih with ⟨lines, hne, hlines⟩
      refine ⟨[] :: lines, List.cons_ne_nil _ _, ?_⟩
      rw [List.cons_append, List.cons_append, crlfLines, if_pos hend, hlines]
      rfl
  | case4 b c more hopen ih =>
      rcases ih with ⟨lines, hne, hlines⟩
      cases lines with
      | nil => exact absurd rfl hne
      | cons line lines =>
          refine ⟨(b :: line) :: lines, List.cons_ne_nil _ _, ?_⟩
          rw [List.cons_append, List.cons_append, crlfLines, if_neg hopen,
            ← List.cons_append, hlines]
          rfl

theorem linesText_ends (lines : List Bytes) : headEnd <:+ lineEnd ++ linesText lines := by
  induction lines with
  | nil => exact List.suffix_refl _
  | cons line lines ih =>
      rw [linesText_cons]
      exact ih.trans ((List.suffix_append line _).trans (List.suffix_append lineEnd _))

theorem endsOnce_of_lines {head first : Bytes} {lines : List Bytes}
    (hhead : head = first ++ (lineEnd ++ linesText lines))
    (hcrlf : crlfLines head = first :: (lines ++ [[]]))
    (hne : forall line, line ∈ lines -> line ≠ []) : EndsOnce head := by
  have hends : headEnd <:+ head := by
    rw [hhead]
    exact (linesText_ends lines).trans (List.suffix_append first _)
  refine ⟨hends, fun front hfront hsuffix => ?_⟩
  rcases hfront with ⟨behind, hbehind⟩
  rcases hsuffix with ⟨before, hbefore⟩
  have hwhole : head = before ++ (lineEnd ++ (lineEnd ++ behind)) := by
    rw [← hbehind, ← hbefore, List.append_assoc]
    rfl
  rcases crlfLines_append before (lineEnd ++ behind) with ⟨found, hfound, hlines⟩
  cases found with
  | nil => exact absurd rfl hfound
  | cons line found =>
      rw [← hwhole, hcrlf, List.cons_append] at hlines
      have hempty : crlfLines (lineEnd ++ behind) = [] :: crlfLines behind := rfl
      have hsame := (List.cons.inj hlines).2
      rw [hempty] at hsame
      have hnone : crlfLines behind = [] := by
        apply Classical.byContradiction
        intro hmore
        have hcut := congrArg List.dropLast hsame
        rw [List.dropLast_concat, List.dropLast_append_of_ne_nil (List.cons_ne_nil _ _),
          List.dropLast_cons_of_ne_nil hmore] at hcut
        apply hne []
        · rw [hcut]
          exact List.mem_append_right _ List.mem_cons_self
        · rfl
      have hfree := crlfLines_nil hnone
      have hlast := lineEnd_within_headEnd.trans hends
      have hsuffix : behind <:+ head := ⟨front, hbehind⟩
      cases behind with
      | nil => rw [← hbehind, List.append_nil]
      | cons x behind =>
          exfalso
          cases behind with
          | cons y behind =>
              apply hfree
              exact (List.suffix_of_suffix_length_le hlast hsuffix
                (by change 2 ≤ behind.length + 1 + 1; omega)).isInfix
          | nil =>
              have htwo : [Byte.lineFeed, x] <:+ head := by
                refine ⟨before ++ [Byte.carriageReturn, Byte.lineFeed,
                  Byte.carriageReturn], ?_⟩
                rw [hwhole, List.append_assoc]
                rfl
              have hsameEnd := (List.suffix_of_suffix_length_le hlast htwo
                (Nat.le_refl 2)).eq_of_length rfl
              cases hsameEnd

theorem headEnds_append {head : Bytes} (h : EndsOnce head) (rest : Bytes) :
    HeadEnds (head ++ rest) head.length := by
  constructor
  · rw [List.length_append]
    exact Nat.le_add_right _ _
  · rw [List.take_left]
    exact h.ends
  · intro m hm hsuffix
    rw [List.take_append_of_le_length (Nat.le_of_lt hm)] at hsuffix
    have hwhole := congrArg List.length (h.first _ (List.take_prefix m head) hsuffix)
    rw [List.length_take] at hwhole
    omega

/-!
## The request line
-/

theorem isWord_take {width : Nat} {word : Bytes} (h : IsWord width word) {rest : Bytes}
    (hrest : rest = [] ∨ rest.head? = some Byte.space) :
    scanWord width (word ++ rest) = some (word, rest) := by
  have hbytes : forall b, b ∈ word -> (!isSpace b) = true := by
    intro b hb
    rw [(h.bytes b hb).1]
    rfl
  have hskip : (word ++ rest).dropWhile isSpace = word ++ rest := by
    cases word with
    | nil => exact absurd rfl h.ne
    | cons b word =>
        rw [List.cons_append, List.dropWhile_cons,
          if_neg (by rw [(h.bytes b List.mem_cons_self).1]; exact nofun)]
  have htakes : ((word ++ rest).takeWhile fun b => !isSpace b).take width = word := by
    rw [List.takeWhile_append_of_pos hbytes]
    have hnone : rest.takeWhile (fun b => !isSpace b) = [] := by
      cases rest with
      | nil => rfl
      | cons b rest =>
          rcases hrest with hnil | hspace
          · cases hnil
          · rw [Option.some.inj hspace]
            rfl
    rw [hnone, List.append_nil, List.take_of_length_le h.fits]
  simp only [scanWord, hskip, htakes, h.ne, if_false, List.drop_left]

theorem scanWord_space (width : Nat) (text : Bytes) :
    scanWord width (Byte.space :: text) = scanWord width text :=
  rfl

theorem parseRequestLine_rendered {request : HttpRequest} (h : Sendable request) :
    parseRequestLine (requestLine request) =
      .ok
        { method := request.method
          path := request.path
          version := request.version
          headers := []
          body := []
          bodyLength := 0 } := by
  have hall : (ascii "HTTP/1.1").all (fun b => !isSpace b && b != Byte.nul) = true := by
    decide
  have hversion : IsWord 15 request.version := by
    rw [h.version]
    refine ⟨by decide, by decide, fun b hb => ?_⟩
    have hbyte := List.all_eq_true.mp hall b hb
    rw [Bool.and_eq_true, bne_iff_ne, Bool.not_eq_true'] at hbyte
    exact hbyte
  have hmethod := @isWord_take 15 request.method h.method
    (Byte.space :: (request.path ++ Byte.space :: request.version)) (.inr rfl)
  have hpath := @isWord_take 127 request.path h.path
    (Byte.space :: request.version) (.inr rfl)
  have hlast := @isWord_take 15 request.version hversion [] (.inl rfl)
  have hline : scanRequestLine (requestLine request) =
      some (request.method, request.path, request.version) := by
    rw [List.append_nil] at hlast
    unfold scanRequestLine requestLine
    simp only [hmethod, scanWord_space, hpath, hlast]
    rfl
  unfold parseRequestLine
  simp only [hline, h.version, if_true]

/-!
## The header lines
-/

theorem headerLine_eq (header : HttpHeader) :
    headerLine header = header.name ++ 0x3A :: Byte.space :: header.value := by
  unfold headerLine
  rw [List.append_assoc]
  rfl

theorem separateHeader_rendered {header : HttpHeader} (h : IsHeader header) :
    separateHeader (headerLine header) = some header := by
  have hname : forall b, b ∈ header.name -> (b != 0x3A) = true := by
    intro b hb
    exact bne_iff_ne.mpr fun hsame => h.nameColon (hsame ▸ hb)
  have htakes : (headerLine header).takeWhile (fun b => b != 0x3A) = header.name := by
    rw [headerLine_eq, List.takeWhile_append_of_pos hname, List.takeWhile_cons,
      if_neg (by simp), List.append_nil]
  have hdrops : (headerLine header).dropWhile (fun b => b != 0x3A) =
      0x3A :: Byte.space :: header.value := by
    rw [headerLine_eq, List.dropWhile_append_of_pos hname, List.dropWhile_cons,
      if_neg (by simp)]
  have hspace : trimWhitespace (Byte.space :: header.value) =
      trimWhitespace header.value := rfl
  unfold separateHeader
  rw [htakes, hdrops]
  simp only [hspace, h.valueTrimmed, h.nameTrimmed]

theorem headerLine_first {header : HttpHeader} (h : IsHeader header) :
    exists b rest, headerLine header = b :: rest ∧ b ≠ Byte.nul ∧ b ≠ Byte.space ∧
      b ≠ Byte.tab := by
  rw [headerLine_eq]
  cases hname : header.name with
  | nil => exact ⟨0x3A, _, rfl, by simp [Byte.nul], by simp [Byte.space], by simp [Byte.tab]⟩
  | cons b name =>
      have hspace : isSpace b = false := by
        have houter := (trimWhitespace_eq_self_iff _).mp h.nameTrimmed
        exact houter.1 b (by rw [hname]; rfl)
      refine ⟨b, _, rfl, ?_, ?_, ?_⟩
      · rintro rfl
        apply h.name.2.2
        rw [hname]
        exact List.mem_cons_self
      · rintro rfl
        cases hspace
      · rintro rfl
        cases hspace

theorem headerLine_lineFree {header : HttpHeader} (h : IsHeader header) :
    Byte.carriageReturn ∉ headerLine header ∧ NulFree (headerLine header) := by
  rw [headerLine_eq]
  constructor
  · intro hmem
    rcases List.mem_append.mp hmem with hmem | hmem
    · exact h.name.1 hmem
    · rcases List.mem_cons.mp hmem with hbyte | hmem
      · cases hbyte
      · rcases List.mem_cons.mp hmem with hbyte | hmem
        · cases hbyte
        · exact h.value.1 hmem
  · intro hmem
    rcases List.mem_append.mp hmem with hmem | hmem
    · exact h.name.2.2 hmem
    · rcases List.mem_cons.mp hmem with hbyte | hmem
      · cases hbyte
      · rcases List.mem_cons.mp hmem with hbyte | hmem
        · cases hbyte
        · exact h.value.2.2 hmem

theorem readHeaders_rendered {headers : List HttpHeader}
    (h : forall header, header ∈ headers -> IsHeader header) :
    forall (fuel : Nat) (read : List HttpHeader),
      (linesText (headers.map headerLine)).length < fuel ->
        readHeaders fuel (linesText (headers.map headerLine)) read =
          .ok (read ++ headers) := by
  induction headers with
  | nil =>
      intro fuel read hfuel
      cases fuel with
      | zero => omega
      | succ fuel =>
          rw [List.append_nil]
          rfl
  | cons header headers ih =>
      intro fuel read hfuel
      have hheader := h header List.mem_cons_self
      rcases headerLine_first hheader with ⟨b, rest, hline, hnul, hspace, htab⟩
      rcases headerLine_lineFree hheader with ⟨hreturn, hfree⟩
      have hsplit := splitLine_line hreturn hfree (linesText (headers.map headerLine))
      rw [List.map_cons, linesText_cons] at hfuel ⊢
      cases fuel with
      | zero => omega
      | succ fuel =>
          have hshorter : (linesText (headers.map headerLine)).length < fuel := by
            rw [hline] at hfuel
            simp only [List.length_append, List.length_cons] at hfuel
            omega
          have hmore := ih (fun other hother => h other (List.mem_cons_of_mem _ hother))
            fuel (read ++ [header]) hshorter
          have hseparate := separateHeader_rendered hheader
          rw [hline] at hsplit hseparate ⊢
          rw [List.cons_append] at hsplit ⊢
          simp only [readHeaders, hnul, if_false, hsplit, List.cons_ne_nil, hspace, htab,
            or_self, hseparate]
          rw [hmore, List.append_assoc, List.singleton_append]

theorem requestLine_lineFree {request : HttpRequest} (h : Sendable request) :
    Byte.carriageReturn ∉ requestLine request ∧ NulFree (requestLine request) := by
  have hall : (ascii "HTTP/1.1").all
      (fun b => b != Byte.carriageReturn && b != Byte.nul) = true := by
    decide
  have hbyte : forall b, b ∈ requestLine request ->
      b ≠ Byte.carriageReturn ∧ b ≠ Byte.nul := by
    have hword : forall {width : Nat} {word : Bytes}, IsWord width word ->
        forall b, b ∈ word -> b ≠ Byte.carriageReturn ∧ b ≠ Byte.nul := by
      intro width word hword b hb
      rcases hword.bytes b hb with ⟨hspace, hnul⟩
      refine ⟨?_, hnul⟩
      rintro rfl
      cases hspace
    have hblank : Byte.space ≠ Byte.carriageReturn ∧ Byte.space ≠ Byte.nul := by
      simp [Byte.space, Byte.carriageReturn, Byte.nul]
    intro b hb
    unfold requestLine at hb
    rcases List.mem_append.mp hb with hb | hb
    · exact hword h.method b hb
    · rcases List.mem_cons.mp hb with rfl | hb
      · exact hblank
      · rcases List.mem_append.mp hb with hb | hb
        · exact hword h.path b hb
        · rcases List.mem_cons.mp hb with rfl | hb
          · exact hblank
          · rw [h.version] at hb
            have hversion := List.all_eq_true.mp hall b hb
            rwa [Bool.and_eq_true, bne_iff_ne, bne_iff_ne] at hversion
  exact ⟨fun hmem => (hbyte _ hmem).1 rfl, fun hmem => (hbyte _ hmem).2 rfl⟩

theorem parseHead_rendered {request : HttpRequest} (h : Sendable request) :
    parseHead (renderHead request) = .ok { request with body := [], bodyLength := 0 } := by
  rcases requestLine_lineFree h with ⟨hreturn, hnul⟩
  unfold parseHead renderHead
  simp only [splitLine_line hreturn hnul, parseRequestLine_rendered h,
    readHeaders_rendered h.headers _ [] (Nat.lt_succ_self _), List.nil_append]

theorem endsOnce_rendered {request : HttpRequest} (h : Sendable request) :
    EndsOnce (renderHead request) := by
  have hreturn : forall line, line ∈ request.headers.map headerLine ->
      Byte.carriageReturn ∉ line := by
    intro line hline
    rcases List.mem_map.mp hline with ⟨header, hheader, rfl⟩
    exact (headerLine_lineFree (h.headers header hheader)).1
  refine @endsOnce_of_lines _ (requestLine request) (request.headers.map headerLine)
    rfl ?_ ?_
  · unfold renderHead
    rw [crlfLines_line (requestLine_lineFree h).1, crlfLines_linesText hreturn]
  · intro line hline
    rcases List.mem_map.mp hline with ⟨header, hheader, rfl⟩
    rcases headerLine_first (h.headers header hheader) with ⟨b, rest, hfirst, _⟩
    rw [hfirst]
    exact List.cons_ne_nil _ _

/-!
## The whole request
-/

theorem requestContentLength_rendered {request : HttpRequest} (h : Sendable request)
    (hint : (request.body.length : Int) ≤ intMax) :
    exists contentLength : Int,
      requestContentLength { request with body := [], bodyLength := 0 } =
        .ok contentLength ∧ contentLength.toNat = request.body.length := by
  have hget : forall name,
      httpRequestGetHeader { request with body := [], bodyLength := 0 } name =
        httpRequestGetHeader request name := fun _ => rfl
  unfold requestContentLength
  rw [hget]
  cases hlength : httpRequestGetHeader request (ascii "Content-Length") with
  | none =>
      refine ⟨-1, rfl, ?_⟩
      rw [h.noLength hlength]
      rfl
  | some value =>
      rw [h.length value hlength]
      simp only [parseIntStrict_decimalNat hint]
      exact ⟨_, rfl, rfl⟩

/-- A request is read back from its bytes, however they arrive. -/
theorem request_read_back {request : HttpRequest} {socket : ByteStream}
    {headerLimit bodyLimit : Nat} {rest : Bytes} (h : Sendable request)
    (hbytes : socket.bytes = renderHead request ++ (request.body ++ rest))
    (hhead : (renderHead request).length ≤ headerLimit)
    (hbody : request.body.length ≤ bodyLimit)
    (hint : (request.body.length : Int) ≤ intMax) :
    (httpReadRequest socket headerLimit bodyLimit).2 = .ok request ∧
      (httpReadRequest socket headerLimit bodyLimit).1.bytes = rest := by
  have hends := headEnds_append (endsOnce_rendered h) (request.body ++ rest)
  rw [← hbytes] at hends
  have hread := readHead_read socket headerLimit
  unfold httpReadRequest
  generalize readHead headerLimit [] socket = outcome at hread
  cases hread with
  | truncated _ hnone => exact absurd hends (hnone _)
  | tooLarge _ hnone => exact absurd hends (hnone _ hhead)
  | @complete n behind _ hn hbehind =>
      rw [hn.unique hends] at hbehind ⊢
      rw [hbytes, List.drop_left] at hbehind
      rw [hbytes, List.take_left]
      rcases requestContentLength_rendered h hint with ⟨contentLength, hlength, hsame⟩
      have hencoding : (transferEncodingCheck (httpRequestGetHeader
          { request with body := [], bodyLength := 0 }
          (ascii "Transfer-Encoding"))).alone = false := by
        change (transferEncodingCheck
          (httpRequestGetHeader request (ascii "Transfer-Encoding"))).alone = false
        rw [h.encoding]
        rfl
      simp only [readBehindHead, parseHead_rendered h, hencoding, Bool.false_eq_true,
        if_false, hlength]
      unfold readBody
      rw [hsame, if_neg (Nat.not_lt.mpr hbody)]
      split
      · have hlong : request.body.length ≤ behind.bytes.length := by
          rw [hbehind, List.length_append]
          exact Nat.le_add_right _ _
        rcases (recvExact_outcome behind request.body.length).1 hlong with
          ⟨hreceived, hleft⟩
        rcases houtcome : recvExact behind request.body.length with ⟨left, outcome⟩
        rw [houtcome] at hreceived hleft
        cases hreceived
        rw [hbehind, List.drop_left] at hleft
        refine ⟨?_, hleft⟩
        rw [hbehind, List.take_left, ← h.bodyLength]
      · next hnone =>
          have hempty : request.body = [] :=
            List.eq_nil_of_length_eq_zero (by omega)
          have hzero : request.bodyLength = 0 := by
            rw [h.bodyLength, hempty]
            rfl
          rw [hempty, List.nil_append] at hbehind
          refine ⟨?_, hbehind⟩
          rw [← hempty, ← hzero]

theorem request_read_back_sample :
    exists (request : HttpRequest) (socket : ByteStream),
      request.body = [0x61, 0x00, 0x62] ∧ socket.pieces.length = 2 ∧
        (httpReadRequest socket 64 8).2 = .ok request := by
  have hmethod : (ascii "POST").all (fun b => !isSpace b && b != Byte.nul) = true := by
    decide
  have hpath : (ascii "/query").all (fun b => !isSpace b && b != Byte.nul) = true := by
    decide
  have hword : forall {width : Nat} {word : Bytes}, word ≠ [] -> word.length ≤ width ->
      word.all (fun b => !isSpace b && b != Byte.nul) = true -> IsWord width word := by
    intro width word hne hfits hall
    refine ⟨hne, hfits, fun b hb => ?_⟩
    have hbyte := List.all_eq_true.mp hall b hb
    rwa [Bool.and_eq_true, Bool.not_eq_true', bne_iff_ne] at hbyte
  let request : HttpRequest :=
    { method := ascii "POST"
      path := ascii "/query"
      version := ascii "HTTP/1.1"
      headers := [{ name := ascii "Content-Length", value := ascii "3" }]
      body := [0x61, 0x00, 0x62]
      bodyLength := 3 }
  have hsendable : Sendable request :=
    { method := hword (by decide) (by decide) hmethod
      path := hword (by decide) (by decide) hpath
      version := rfl
      headers := by
        intro header hheader
        rw [List.mem_singleton.mp hheader]
        exact
          { nameTrimmed := by decide
            nameColon := by decide
            name := ⟨by decide, by decide, by decide⟩
            valueTrimmed := by decide
            value := ⟨by decide, by decide, by decide⟩ }
      encoding := by decide
      length := by
        intro value hvalue
        have hthree : httpRequestGetHeader request (ascii "Content-Length") =
            some (decimalNat 3) := by
          decide
        rw [hthree] at hvalue
        exact (Option.some.inj hvalue).symm
      noLength := by
        intro hnone
        have hsome : (httpRequestGetHeader request (ascii "Content-Length")).isSome :=
          by decide
        rw [hnone] at hsome
        cases hsome
      bodyLength := rfl }
  refine ⟨request,
    { pieces := [renderHead request ++ [0x61], [0x00, 0x62]]
      filled := by decide }, rfl, rfl, ?_⟩
  exact (@request_read_back request
    { pieces := [renderHead request ++ [0x61], [0x00, 0x62]]
      filled := by decide } 64 8 [] hsendable (by decide) (by decide) (by decide)
    (by decide)).1

end Http
end SqlCsvServer
