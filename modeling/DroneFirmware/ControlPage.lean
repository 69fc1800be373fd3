import DroneFirmware.CText.Printf

/-!
# The control page: `HTML` of `drone_webserver.c`

The page is one string constant, written as adjacent literals that the compiler joins; the
array ends with the NUL of the last one.  Its poll is the other side of `handle_rc`: it posts
the sliders and decodes the answer.

* `htmlLines`: the literals.
* `sizeofHtml_sub_one`: what `handle_page` announces and sends is the page without the NUL.
* `fitsInt_length_html`: its length is an `int`, as the cast in `handle_page` needs.
-/

namespace DroneFirmware

open CText

/-- The literals of `HTML`. -/
def htmlLines : List String := [
  "<!DOCTYPE html><html><head>",
  "<meta charset=UTF-8>",
  "<meta name=viewport content='width=device-width,initial-scale=1,user-scalable=no'>",
  "<title>Drone</title>",
  "<style>",
  "*\x7bbox-sizing:border-box;margin:0;padding:0\x7d",
  "body\x7bbackground:#0d1117;color:#e6edf3;font-family:system-ui,sans-serif;",
  "max-width:420px;margin:0 auto;padding:12px\x7d",
  "h2\x7btext-align:center;padding:10px 0;letter-spacing:2px\x7d",
  "#state\x7btext-align:center;font-size:1.8em;font-weight:700;padding:12px;",
  "border-radius:8px;background:#161b22;margin:8px 0\x7d",
  "#tel\x7bdisplay:grid;grid-template-columns:repeat(3,1fr);gap:6px;margin:8px 0\x7d",
  ".tc\x7bbackground:#161b22;border-radius:6px;padding:8px;text-align:center\x7d",
  ".tv\x7bfont-size:1.2em;font-weight:700;color:#58a6ff\x7d",
  ".tk\x7bfont-size:.7em;color:#8b949e;margin-top:2px\x7d",
  ".sl\x7bmargin:12px 0\x7d",
  ".slr\x7bdisplay:flex;justify-content:space-between;margin-bottom:5px;font-size:.9em\x7d",
  ".slr small\x7bcolor:#58a6ff;font-weight:600;min-width:48px;text-align:right\x7d",
  "input[type=range]\x7b-webkit-appearance:none;width:100%;height:10px;",
  "background:#21262d;border-radius:5px;outline:none\x7d",
  "input[type=range]::-webkit-slider-thumb\x7b-webkit-appearance:none;width:24px;",
  "height:24px;border-radius:50%;background:#58a6ff;cursor:pointer;",
  "box-shadow:0 0 6px #58a6ff66\x7d",
  ".btns\x7bdisplay:flex;gap:10px;margin:16px 0\x7d",
  "button\x7bflex:1;padding:16px;font-size:1.05em;border:0;border-radius:8px;",
  "cursor:pointer;font-weight:700;letter-spacing:1px\x7d",
  "#ba\x7bbackground:#238636;color:#fff\x7d",
  "#bd\x7bbackground:#da3633;color:#fff\x7d",
  "#cn\x7btext-align:center;font-size:.8em;color:#8b949e;padding:4px 0\x7d",
  "</style></head><body>",
  "<h2>DRONE</h2>",
  "<div id=state>OFFLINE</div>",
  "<div id=tel>",
  "<div class=tc><div class=tv id=vr>--</div><div class=tk>ROLL</div></div>",
  "<div class=tc><div class=tv id=vp>--</div><div class=tk>PITCH</div></div>",
  "<div class=tc><div class=tv id=vg>--</div><div class=tk>YAW/s</div></div>",
  "</div>",
  "<div class=sl>",
  "<div class=slr><b>Gaz (Throttle)</b><small id=lt>0 %</small></div>",
  "<input type=range id=thr min=0 max=100 value=0>",
  "</div>",
  "<div class=sl>",
  "<div class=slr><b>Lacet (Yaw)</b><small id=ly>0</small></div>",
  "<input type=range id=syaw min=-100 max=100 value=0>",
  "</div>",
  "<div class=sl>",
  "<div class=slr><b>Tangage (Pitch)</b><small id=lp>0</small></div>",
  "<input type=range id=spit min=-100 max=100 value=0>",
  "</div>",
  "<div class=sl>",
  "<div class=slr><b>Roulis (Roll)</b><small id=lr>0</small></div>",
  "<input type=range id=srol min=-100 max=100 value=0>",
  "</div>",
  "<div class=btns>",
  "<button id=ba onclick='arm()'>ARM</button>",
  "<button id=bd onclick='dis()'>DISARM</button>",
  "</div>",
  "<div id=cn>offline</div>",
  "<script>",
  "let active=false;",
  "const g=id=>document.getElementById(id);",
  "g('thr').oninput=e=>g('lt').textContent=e.target.value+' %';",
  "g('syaw').oninput=e=>g('ly').textContent=e.target.value;",
  "g('spit').oninput=e=>g('lp').textContent=e.target.value;",
  "g('srol').oninput=e=>g('lr').textContent=e.target.value;",
  "function arm()\x7b",
  "active=true;",
  "g('ba').style.boxShadow='0 0 12px #238636';",
  "g('bd').style.boxShadow='none'\x7d",
  "function dis()\x7b",
  "active=false;",
  "g('thr').value=0;g('lt').textContent='0 %';",
  "g('ba').style.boxShadow='none';",
  "g('bd').style.boxShadow='0 0 12px #da3633'\x7d",
  "async function poll()\x7b",
  "try\x7b",
  "const res=await fetch('/rc',\x7bmethod:'POST',",
  "headers:\x7b'Content-Type':'application/json'\x7d,",
  "body:JSON.stringify(\x7b",
  "t:+g('thr').value,",
  "y:+g('syaw').value,",
  "p:+g('spit').value,",
  "r:+g('srol').value,",
  "a:active?1:0",
  "\x7d)\x7d);",
  "const d=await res.json();",
  "g('state').textContent=d.st;",
  "g('vr').textContent=(d.rol/10).toFixed(1);",
  "g('vp').textContent=(d.pit/10).toFixed(1);",
  "g('vg').textContent=(d.gz/10).toFixed(1);",
  "g('cn').textContent='connecte';",
  "\x7dcatch(e)\x7bg('cn').textContent='offline'\x7d",
  "setTimeout(poll,200)\x7d",
  "poll();",
  "</script></body></html>"]

/-- The page. -/
def html : List UInt8 := (htmlLines.map ascii).flatten

/-- The array `HTML`. -/
def htmlArray : List UInt8 := html ++ [0]

/-- `(int)sizeof(HTML)`. -/
def sizeofHtml : ℤ := htmlArray.length

/-- The length that `handle_page` announces and sends leaves the NUL out. -/
theorem sizeofHtml_sub_one : sizeofHtml - 1 = html.length := by
  rw [sizeofHtml, htmlArray, List.length_append, List.length_singleton]
  omega

theorem html_isPrefix : html <+: htmlArray := List.prefix_append html [0]

/-- The page begins with the doctype. -/
theorem head?_html : html.head? = some 0x3C := by
  have hline : (ascii "<!DOCTYPE html><html><head>").head? = some 0x3C := by decide
  rw [html, htmlLines, List.map_cons, List.flatten_cons, List.head?_append, hline, Option.some_or]

theorem length_htmlLine_le : ∀ line ∈ htmlLines, (ascii line).length ≤ 100 := by
  -- each literal is read as the list of its characters
  repeat refine List.forall_mem_cons.mpr ⟨length_ascii_le (by decide), ?_⟩
  exact List.forall_mem_nil _

theorem length_html_le : html.length ≤ 9500 := by
  have hlines : ∀ n ∈ (htmlLines.map ascii).map List.length, n ≤ 100 := by
    intro n hn
    rw [List.map_map, List.mem_map] at hn
    obtain ⟨line, hline, rfl⟩ := hn
    exact length_htmlLine_le line hline
  have hsum := List.sum_le_card_nsmul _ _ hlines
  have hcount : htmlLines.length = 95 := rfl
  rw [List.length_map, List.length_map, hcount] at hsum
  rw [html, List.length_flatten]
  exact hsum

/-- **The cast of `handle_page` keeps the size**: the page is far shorter than the largest
`int`. -/
theorem fitsInt_length_html : FitsInt html.length := by
  have hlen := length_html_le
  rw [FitsInt, intMin, intMax]
  omega

end DroneFirmware
