import ShaderGen.Uid
import ShaderGen.StdMap
import ShaderGen.UidChecker
import ShaderGen.CheckerRefinement
import ShaderGen.Addressing
import ShaderGen.CacheLines
import ShaderGen.Packing
import ShaderGen.Depth
import ShaderGen.Buffer
import ShaderGen.Dispatch
import ShaderGen.Uninitialized
