/-
Reserved words that can start a line of a module body or end a declaration, and so never name a
module type, an instance or a declared object.
-/
namespace RtlAtlas.Source

def keywords : List String := [
  "always", "always_comb", "always_ff", "always_latch", "and", "assert", "assign", "assume",
  "automatic", "begin", "bit", "buf", "byte", "case", "casex", "casez", "class", "cover", "default",
  "defparam", "disable", "do", "else", "end", "endcase", "endfunction", "endgenerate", "endmodule",
  "endtask", "enum", "event", "final", "for", "force", "foreach", "forever", "fork", "function",
  "generate", "genvar", "if", "import", "initial", "inout", "input", "int", "integer", "join",
  "localparam", "logic", "module", "nand", "nor", "not", "or", "output", "package", "parameter",
  "real", "reg", "release", "repeat", "return", "signed", "specify", "static", "struct", "supply0",
  "supply1", "task", "tri", "typedef", "union", "unique", "unsigned", "var", "void", "wait", "wand",
  "while", "wire", "wor", "xnor", "xor"]

def isKeyword (word : List Char) : Bool := keywords.contains (String.ofList word)

end RtlAtlas.Source
