import SqlCsvServer.Http.Framing

/-!
# The lines of a head

The lines are cut on raw bytes here; `http_read_request` reads them as C strings.
-/

namespace SqlCsvServer
namespace Http

open Foundation Common Engine

/-!
## Lines
-/

def lineEnd : Bytes :=
  [Byte.carriageReturn, Byte.lineFeed]

theorem lineEnd_nulFree : NulFree lineEnd := by
  decide

def crlfLines : Bytes -> List Bytes
  | [] => []
  | [_] => []
  | b :: c :: rest =>
      if b = Byte.carriageReturn ∧ c = Byte.lineFeed then [] :: crlfLines rest
      else (crlfLines (c :: rest)).modifyHead (b :: ·)

theorem crlfLines_cons {text line : Bytes} {more : List Bytes}
    (h : crlfLines text = line :: more) :
    exists rest, text = line ++ (lineEnd ++ rest) ∧ crlfLines rest = more ∧
      ¬ lineEnd <:+: line := by
  fun_induction crlfLines text generalizing line more with
  | case1 => cases h
  | case2 => cases h
  | case3 b c rest hend ih =>
      cases h
      refine ⟨rest, ?_, rfl, ?_⟩
      · rw [hend.1, hend.2]
        rfl
      · intro hwithin
        cases List.infix_nil.mp hwithin
  | case4 b c rest hopen ih =>
      cases hlines : crlfLines (c :: rest) with
      | nil =>
          rw [hlines] at h
          cases h
      | cons first others =>
          rw [hlines, List.modifyHead_cons] at h
          rcases List.cons.inj h with ⟨rfl, rfl⟩
          rcases ih hlines with ⟨behind, htext, hothers, hfree⟩
          refine ⟨behind, by rw [htext]; rfl, hothers, ?_⟩
          intro hwithin
          rcases List.infix_cons_iff.mp hwithin with hprefix | hlater
          · apply hopen
            cases first with
            | nil =>
                have hlength := hprefix.length_le
                change 2 ≤ 1 at hlength
                omega
            | cons second first =>
                have hc : c = second := (List.cons.inj htext).1
                rcases List.cons_prefix_cons.mp hprefix with ⟨hfirst, hsecond⟩
                rcases List.cons_prefix_cons.mp hsecond with ⟨hsecond, _⟩
                exact ⟨hfirst.symm, hc.trans hsecond.symm⟩
          · exact hfree hlater

theorem crlfLines_nil {text : Bytes} (h : crlfLines text = []) :
    ¬ lineEnd <:+: text := by
  fun_induction crlfLines text with
  | case1 =>
      intro hwithin
      cases List.infix_nil.mp hwithin
  | case2 b =>
      intro hwithin
      have hlength := hwithin.length_le
      change 2 ≤ 1 at hlength
      omega
  | case3 => cases h
  | case4 b c rest hopen ih =>
      have hrest : crlfLines (c :: rest) = [] := by
        cases hlines : crlfLines (c :: rest) with
        | nil => rfl
        | cons first others =>
            rw [hlines] at h
            cases h
      intro hwithin
      rcases List.infix_cons_iff.mp hwithin with hprefix | hlater
      · rcases List.cons_prefix_cons.mp hprefix with ⟨hfirst, hsecond⟩
        rcases List.cons_prefix_cons.mp hsecond with ⟨hsecond, _⟩
        exact hopen ⟨hfirst.symm, hsecond.symm⟩
      · exact ih hrest hlater

theorem splitLine_some {text line rest : Bytes} (h : splitLine text = some (line, rest)) :
    text = line ++ (lineEnd ++ rest) ∧ NulFree line ∧
      crlfLines text = line :: crlfLines rest := by
  induction text generalizing line with
  | nil => cases h
  | cons b text ih =>
      rw [splitLine] at h
      split at h
      · cases h
      · next hnul =>
          cases text with
          | nil => simp [splitLine] at h
          | cons c text =>
              split at h
              · next hend =>
                  cases h
                  have hc : c = Byte.lineFeed := Option.some.inj hend.2
                  rw [hend.1, hc]
                  exact ⟨rfl, List.not_mem_nil, rfl⟩
              · next hopen =>
                  rcases Option.map_eq_some_iff.mp h with ⟨⟨first, behind⟩, hsplit, hpair⟩
                  cases hpair
                  rcases ih hsplit with ⟨htext, hfree, hlines⟩
                  have hother : ¬ (b = Byte.carriageReturn ∧ c = Byte.lineFeed) :=
                    fun hend => hopen ⟨hend.1, by rw [hend.2]; rfl⟩
                  refine ⟨by rw [htext]; rfl, ?_, ?_⟩
                  · intro hmem
                    rcases List.mem_cons.mp hmem with hbyte | hmem
                    · exact hnul hbyte.symm
                    · exact hfree hmem
                  · rw [crlfLines, if_neg hother, hlines, List.modifyHead_cons]

/-!
## The lines of a head
-/

structure EndsOnce (text : Bytes) : Prop where
  ends : headEnd <:+ text
  first : forall front, front <+: text -> headEnd <:+ front -> front = text

theorem HeadEnds.endsOnce {stream : Bytes} {n : Nat} (h : HeadEnds stream n) :
    EndsOnce (stream.take n) := by
  refine ⟨h.ends, fun front hfront hends => ?_⟩
  have htake : front = stream.take front.length :=
    List.prefix_iff_eq_take.mp (hfront.trans (List.take_prefix _ _))
  rcases Nat.lt_or_ge front.length n with hless | hmore
  · rw [htake] at hends
    exact absurd hends (h.first _ hless)
  · apply hfront.eq_of_length_le
    rw [List.length_take]
    exact Nat.le_trans (Nat.min_le_left _ _) hmore

theorem lineEnd_within_headEnd : lineEnd <:+ headEnd :=
  ⟨lineEnd, rfl⟩

theorem headEnd_behind {front rest : Bytes} (hfree : ¬ lineEnd <:+ front)
    (h : headEnd <:+ front ++ (lineEnd ++ rest)) : headEnd <:+ lineEnd ++ rest := by
  have hrest : (lineEnd ++ rest) <:+ front ++ (lineEnd ++ rest) :=
    List.suffix_append _ _
  rcases Nat.lt_or_ge rest.length 2 with hshort | hlong
  · exfalso
    have hlength : (lineEnd ++ rest).length ≤ headEnd.length := by
      rw [List.length_append]
      change 2 + _ ≤ 4
      omega
    have hwithin := List.suffix_of_suffix_length_le hrest h hlength
    cases rest with
    | nil =>
        rcases h with ⟨left, hleft⟩
        have hcut : left ++ lineEnd = front := by
          apply @List.append_cancel_right _ _ lineEnd
          rw [List.append_assoc]
          exact hleft
        apply hfree
        rw [← hcut]
        exact List.suffix_append _ _
    | cons x rest =>
        cases rest with
        | cons y rest => simp only [List.length_cons] at hshort; omega
        | nil =>
            have hthree := List.suffix_iff_eq_drop.mp hwithin
            cases hthree
  · apply List.suffix_of_suffix_length_le h hrest
    rw [List.length_append]
    change 4 ≤ 2 + _
    omega

theorem EndsOnce.behind {front rest : Bytes} (hfree : ¬ lineEnd <:+ front)
    (h : EndsOnce (front ++ (lineEnd ++ rest))) : EndsOnce (lineEnd ++ rest) := by
  refine ⟨headEnd_behind hfree h.ends, fun other hother hends => ?_⟩
  apply @List.append_cancel_left _ front
  apply h.first
  · exact (List.prefix_append_right_inj front).mpr hother
  · exact hends.trans (List.suffix_append _ _)

theorem lineEnd_not_suffix {b : Byte} {line : Bytes} (hfree : ¬ lineEnd <:+: b :: line) :
    ¬ lineEnd <:+ lineEnd ++ b :: line := by
  intro hsuffix
  cases line with
  | nil => cases List.suffix_iff_eq_drop.mp hsuffix
  | cons c line =>
      apply hfree
      apply List.IsSuffix.isInfix
      exact List.suffix_of_suffix_length_le hsuffix (List.suffix_append _ _)
        (by change 2 ≤ line.length + 1 + 1; omega)

def linesText (lines : List Bytes) : Bytes :=
  (lines.map (· ++ lineEnd)).flatten ++ lineEnd

theorem mem_linesText {lines : List Bytes} {b : Byte} :
    b ∈ linesText lines <-> (exists line, line ∈ lines ∧ b ∈ line) ∨ b ∈ lineEnd := by
  unfold linesText
  rw [List.mem_append, List.mem_flatten]
  constructor
  · rintro (⟨whole, hwhole, hb⟩ | hb)
    · rcases List.mem_map.mp hwhole with ⟨line, hline, rfl⟩
      rcases List.mem_append.mp hb with hb | hb
      · exact .inl ⟨line, hline, hb⟩
      · exact .inr hb
    · exact .inr hb
  · rintro (⟨line, hline, hb⟩ | hb)
    · exact .inl ⟨line ++ lineEnd, List.mem_map_of_mem hline, List.mem_append_left _ hb⟩
    · exact .inr hb

theorem EndsOnce.lines {cursor : Bytes} (h : EndsOnce (lineEnd ++ cursor)) :
    exists lines, crlfLines cursor = lines ++ [[]] ∧ cursor = linesText lines ∧
      forall line, line ∈ lines -> line ≠ [] := by
  induction hlength : cursor.length using Nat.strong_induction_on generalizing cursor with
  | _ length ih =>
      subst hlength
      cases hcrlf : crlfLines cursor with
      | nil =>
          exfalso
          have hfree := crlfLines_nil hcrlf
          apply hfree
          have hends := lineEnd_within_headEnd.trans h.ends
          have hlong := h.ends.length_le
          rw [List.length_append] at hlong
          change 4 ≤ 2 + _ at hlong
          exact (List.suffix_of_suffix_length_le hends (List.suffix_append _ _)
            (by change 2 ≤ _; omega)).isInfix
      | cons line more =>
          rcases crlfLines_cons hcrlf with ⟨rest, rfl, rfl, hfree⟩
          cases line with
          | nil =>
              have hwhole := h.first headEnd ⟨rest, by simp [headEnd, lineEnd]⟩
                (List.suffix_refl _)
              have hrest : rest = [] := by
                have hlengths := congrArg List.length hwhole
                simp only [List.length_append] at hlengths
                change 4 = 2 + (0 + (2 + _)) at hlengths
                exact List.eq_nil_of_length_eq_zero (by omega)
              subst hrest
              exact ⟨[], rfl, rfl, nofun⟩
          | cons b line =>
              have hbehind : EndsOnce (lineEnd ++ rest) := by
                rw [← List.append_assoc] at h
                exact h.behind (lineEnd_not_suffix hfree)
              have hshorter : rest.length < (b :: line ++ (lineEnd ++ rest)).length := by
                simp only [List.length_append, List.length_cons]
                omega
              rcases ih rest.length hshorter hbehind rfl with ⟨lines, hlines, rfl, hne⟩
              refine ⟨(b :: line) :: lines, by rw [hlines]; rfl, ?_, ?_⟩
              · unfold linesText
                rw [List.map_cons, List.flatten_cons, List.append_assoc, List.append_assoc]
              · intro other hother
                rcases List.mem_cons.mp hother with rfl | hother
                · exact List.cons_ne_nil _ _
                · exact hne other hother

theorem EndsOnce.head {head : Bytes} (h : EndsOnce head) :
    exists first lines, crlfLines head = first :: (lines ++ [[]]) ∧
      head = first ++ (lineEnd ++ linesText lines) ∧
        forall line, line ∈ lines -> line ≠ [] := by
  cases hcrlf : crlfLines head with
  | nil =>
      have hwithin := (lineEnd_within_headEnd.trans h.ends).isInfix
      exact absurd hwithin (crlfLines_nil hcrlf)
  | cons first more =>
      rcases crlfLines_cons hcrlf with ⟨rest, rfl, rfl, hfree⟩
      rcases (h.behind fun hsuffix => hfree hsuffix.isInfix).lines with
        ⟨lines, hlines, rfl, hne⟩
      exact ⟨first, lines, by rw [hlines], rfl, hne⟩

/-- The lines between the request line and the terminator. -/
def headerLines (head : Bytes) : List Bytes :=
  ((crlfLines head).drop 1).dropLast

theorem headerLines_eq {head first : Bytes} {lines : List Bytes}
    (h : crlfLines head = first :: (lines ++ [[]])) : headerLines head = lines := by
  unfold headerLines
  rw [h, List.drop_one, List.tail_cons, List.dropLast_concat]

/-!
## What becomes of the lines
-/

/-- The header that a line is: the trimmed text before and after its first colon. -/
def lineHeader (line : Bytes) : HttpHeader :=
  { name := trimWhitespace (line.takeWhile fun b => b != 0x3A)
    value := trimWhitespace ((line.dropWhile fun b => b != 0x3A).drop 1) }

def isShown (line : Bytes) : Bool :=
  line != [] && line.head? != some Byte.nul

theorem separateHeader_some {line : Bytes} {header : HttpHeader}
    (h : separateHeader line = some header) : header = lineHeader line := by
  unfold separateHeader at h
  unfold lineHeader
  split at h
  · cases h
  · next hcolon =>
      cases h
      rw [hcolon]
      rfl

theorem readHeaders_shown {fuel : Nat} {cursor : Bytes} {headers result : List HttpHeader}
    (hfuel : cursor.length < fuel) (h : readHeaders fuel cursor headers = .ok result) :
    result = headers ++ ((crlfLines cursor).takeWhile isShown).map lineHeader ∧
      forall line, line ∈ (crlfLines cursor).takeWhile isShown -> NulFree line := by
  induction fuel generalizing cursor headers with
  | zero => omega
  | succ fuel ih =>
      have hstop : forall {lines : List Bytes},
          (forall line, lines.head? = some line -> isShown line = false) ->
            headers = headers ++ (lines.takeWhile isShown).map lineHeader ∧
              forall line, line ∈ lines.takeWhile isShown -> NulFree line := by
        intro lines hlines
        have hnone : lines.takeWhile isShown = [] := by
          cases lines with
          | nil => rfl
          | cons line lines =>
              rw [List.takeWhile_cons, if_neg (by rw [hlines line rfl]; exact nofun)]
        rw [hnone]
        exact ⟨(List.append_nil _).symm, nofun⟩
      cases cursor with
      | nil =>
          cases h
          exact hstop nofun
      | cons b rest =>
          rw [readHeaders] at h
          split at h
          · next hnul =>
              cases h
              apply hstop
              intro line hline
              cases hcrlf : crlfLines (b :: rest) with
              | nil =>
                  rw [hcrlf] at hline
                  cases hline
              | cons first more =>
                  rw [hcrlf, List.head?_cons] at hline
                  cases hline
                  rcases crlfLines_cons hcrlf with ⟨behind, htext, _, _⟩
                  cases line with
                  | nil => rfl
                  | cons c line =>
                      have hc : b = c := (List.cons.inj htext).1
                      unfold isShown
                      rw [← hc, hnul]
                      rfl
          · next hnul =>
              split at h
              · cases h
              · next line behind hsplit =>
                  rcases splitLine_some hsplit with ⟨htext, hfree, hcrlf⟩
                  rw [hcrlf]
                  split at h
                  · next hempty =>
                      cases h
                      apply hstop
                      intro other hother
                      rw [List.head?_cons] at hother
                      cases hother
                      rw [hempty]
                      rfl
                  · next hne =>
                      split at h
                      · cases h
                      · split at h
                        · cases h
                        · next header hheader =>
                            have hshown : isShown line = true := by
                              cases line with
                              | nil => exact absurd rfl hne
                              | cons c line =>
                                  have hc : b = c := (List.cons.inj htext).1
                                  unfold isShown
                                  rw [← hc]
                                  simp [hnul]
                            have hlengths := congrArg List.length htext
                            rw [List.length_append, List.length_append] at hlengths
                            change _ = _ + (2 + _) at hlengths
                            rcases ih (by omega) h with ⟨hresult, hnulFree⟩
                            rw [List.takeWhile_cons, if_pos hshown]
                            constructor
                            · rw [hresult, separateHeader_some hheader, List.map_cons,
                                List.append_assoc, List.singleton_append]
                            · intro other hother
                              rcases List.mem_cons.mp hother with rfl | hother
                              · exact hfree
                              · exact hnulFree other hother

theorem parseHead_headers {head : Bytes} {request : HttpRequest} (hends : EndsOnce head)
    (h : parseHead head = .ok request) :
    request.headers = ((headerLines head).takeWhile isShown).map lineHeader ∧
      (NulFree head <->
        forall line, line ∈ headerLines head -> isShown line = true) := by
  rcases hends.head with ⟨first, lines, hcrlf, hhead, hne⟩
  rw [headerLines_eq hcrlf]
  unfold parseHead at h
  split at h
  · cases h
  · next line cursor hsplit =>
      rcases splitLine_some hsplit with ⟨htext, hfree, hlines⟩
      rw [hcrlf] at hlines
      rcases List.cons.inj hlines with ⟨rfl, hcursor⟩
      split at h
      · cases h
      · split at h
        · cases h
        · next headers hheaders =>
            cases h
            rcases readHeaders_shown (Nat.lt_succ_self _) hheaders with ⟨hresult, hnulFree⟩
            rw [← hcursor] at hresult hnulFree
            have hlast : (lines ++ [[]]).takeWhile isShown = lines.takeWhile isShown := by
              rw [List.takeWhile_append]
              split
              · next hall =>
                  rw [(List.takeWhile_prefix isShown).eq_of_length hall]
                  exact List.append_nil _
              · rfl
            rw [hlast] at hresult hnulFree
            refine ⟨hresult, ?_⟩
            rw [hhead]
            constructor
            · intro hnul line hline
              cases line with
              | nil => exact absurd rfl (hne _ hline)
              | cons b line =>
                  have hb : b ≠ Byte.nul := by
                    rintro rfl
                    apply hnul
                    apply List.mem_append_right
                    apply List.mem_append_right
                    exact mem_linesText.mpr (.inl ⟨_, hline, List.mem_cons_self⟩)
                  simp [isShown, hb]
            · intro hall hmem
              rw [List.takeWhile_eq_self_iff.mpr hall] at hnulFree
              rcases List.mem_append.mp hmem with hmem | hmem
              · exact hfree hmem
              · rcases List.mem_append.mp hmem with hmem | hmem
                · exact lineEnd_nulFree hmem
                · rcases mem_linesText.mp hmem with ⟨line, hline, hmem⟩ | hmem
                  · exact hnulFree line hline hmem
                  · exact lineEnd_nulFree hmem

theorem readBody_headers {bodyLimit : Nat} {contentLength : Int}
    {request result : HttpRequest} {socket : ByteStream}
    (h : (readBody bodyLimit contentLength request socket).2 = .ok result) :
    result.headers = request.headers := by
  unfold readBody at h
  split at h
  · split at h
    · cases h
    · split at h
      · cases h
      · cases h
        rfl
  · cases h
    rfl

theorem readBehindHead_parsed {bodyLimit : Nat} {headerBuffer : Bytes}
    {socket : ByteStream} {request : HttpRequest}
    (h : (readBehindHead bodyLimit headerBuffer socket).2 = .ok request) :
    exists parsed, parseHead headerBuffer = .ok parsed ∧
      request.headers = parsed.headers ∧
        (transferEncodingCheck
          (httpRequestGetHeader parsed (ascii "Transfer-Encoding"))).alone = false := by
  unfold readBehindHead at h
  split at h
  · cases h
  · next parsed hhead =>
      split at h
      · cases h
      · next hchunked =>
          split at h
          · cases h
          · exact ⟨parsed, hhead, readBody_headers h, Bool.not_eq_true _ ▸ hchunked⟩

theorem httpReadRequest_head {socket : ByteStream} {headerLimit bodyLimit : Nat}
    {request : HttpRequest}
    (h : (httpReadRequest socket headerLimit bodyLimit).2 = .ok request) :
    exists n behind, n ≤ headerLimit ∧ HeadEnds socket.bytes n ∧
      (readBehindHead bodyLimit (socket.bytes.take n) behind).2 = .ok request := by
  have hread := readHead_read socket headerLimit
  unfold httpReadRequest at h
  generalize readHead headerLimit [] socket = outcome at hread h
  cases hread with
  | complete hlimit hends hrest => exact ⟨_, _, hlimit, hends, h⟩
  | truncated => cases h
  | tooLarge => cases h

/-- Every line of the head is a header just when the head has no NUL. -/
theorem headers_complete_iff {socket : ByteStream} {headerLimit bodyLimit : Nat}
    {request : HttpRequest}
    (h : (httpReadRequest socket headerLimit bodyLimit).2 = .ok request) :
    exists n, HeadEnds socket.bytes n ∧
      (request.headers = (headerLines (socket.bytes.take n)).map lineHeader <->
        NulFree (socket.bytes.take n)) := by
  rcases httpReadRequest_head h with ⟨n, behind, _, hends, hbehind⟩
  rcases readBehindHead_parsed hbehind with ⟨parsed, hparsed, hheaders, _⟩
  rcases parseHead_headers hends.endsOnce hparsed with ⟨hshown, hnul⟩
  refine ⟨n, hends, ?_⟩
  rw [hheaders, hshown, hnul]
  constructor
  · intro hall
    have hlengths := congrArg List.length hall
    rw [List.length_map, List.length_map] at hlengths
    have hwhole := (List.takeWhile_prefix isShown).eq_of_length hlengths
    exact List.takeWhile_eq_self_iff.mp hwhole
  · intro hall
    rw [List.takeWhile_eq_self_iff.mpr hall]

/-- A stream that arrives at once. -/
def wholeStream (text : Bytes) (h : text ≠ []) : ByteStream :=
  { pieces := [text]
    filled := fun piece hpiece => by rw [List.mem_singleton.mp hpiece]; exact h }

theorem headers_complete_iff_sample :
    exists n, HeadEnds (ascii "GET / HTTP/1.1\r\nHost: a\r\n\r\n") n ∧
      ([{ name := ascii "Host", value := ascii "a" }] =
          (headerLines ((ascii "GET / HTTP/1.1\r\nHost: a\r\n\r\n").take n)).map
            lineHeader <->
        NulFree ((ascii "GET / HTTP/1.1\r\nHost: a\r\n\r\n").take n)) := by
  have hok : (httpReadRequest
      (wholeStream (ascii "GET / HTTP/1.1\r\nHost: a\r\n\r\n") (by decide)) 64 0).2 =
      .ok
        { method := ascii "GET"
          path := ascii "/"
          version := ascii "HTTP/1.1"
          headers := [{ name := ascii "Host", value := ascii "a" }]
          body := []
          bodyLength := 0 } := by
    decide
  exact headers_complete_iff hok

/-- A Content-Length behind a line that starts with NUL is not seen. -/
theorem headers_left_out :
    HeadEnds (ascii "GET / HTTP/1.1\r\n\x00\r\nContent-Length: 5\r\n\r\n") 40 ∧
      headerLines (ascii "GET / HTTP/1.1\r\n\x00\r\nContent-Length: 5\r\n\r\n") =
        [[Byte.nul], ascii "Content-Length: 5"] ∧
      (httpReadRequest
        (wholeStream
          (ascii "GET / HTTP/1.1\r\n\x00\r\nContent-Length: 5\r\n\r\n") (by decide))
        64 0).2 =
        .ok
          { method := ascii "GET"
            path := ascii "/"
            version := ascii "HTTP/1.1"
            headers := []
            body := []
            bodyLength := 0 } := by
  refine ⟨⟨by decide, by decide, by decide⟩, ?_, ?_⟩
  · decide
  · decide

end Http
end SqlCsvServer
