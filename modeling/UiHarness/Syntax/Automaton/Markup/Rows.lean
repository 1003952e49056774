/-!
# Actions in the states for source with markup

Each number is a list of pairs of twenty-eight bits: the lower ten are the number of a set of tokens,
the others an action for these tokens.
-/

namespace UiHarness.Syntax.Automaton.Markup

/-- The rows of actions 0 to 63. -/
def rows0 : Array Nat := #[
  0x2c010000c00,
  0x29bc43329ba43229b843108ee430054642f09ee42e1d7c42d0f9442c29b642b09ec42a0f924291c444282170427216e42603284251a1042429b4423032642200e04211a6c420057641f186e41e01ae41d015c41c029041b026041a2752419229841822964172750416003e415274e414032441305de41201984112294410274c40f274a40e1a0e40d08ec40c1a6a40b274840a158c4090322408000840708ea40609b4405052e404001c40300008020000c00,
  0xa6844d15b644c2a1844b079244a2a1644909be44801784470c4c4460e7a44510d844402084430412442033044102da440024843f098643e079043d002383c03ea43b002383b000383a03ac439078c438078a43704124360002836000283515ca4342a144311d7c42d0e6a42c2b9842b098042a1a504282234427223242603e842500028251a484242b6e4230002823041642200e64211c18420056e41f18a041e008041d016a41c041441300c641115cc40d226240908b640708de4060000c00,
  0xa6844d15b644c2a1844b079244a2a1644909be44801784470c4c4460e7a44510d844402084430412442033044102bc440024843f098643e079043d002383c000283c037843b002383b000383a03ac439078c438078a43704124360002836000283515ca4342a144311d7c42d0e6a42c2b9842b098042a1a504282234427223242603e842500028251a484242b6e4230002823041642200e64211c18420056e41f18a041e008041d016a41c041441300c641115cc40d226240908b640708de4060000c00,
  0x55c455055a454053c45305344520f924510f9845001b644f0b6644e092c448053a447032e44114d443429bc43329ba43229b843108ce430052842f1d7c42d0f9442c1d8042b092a42a1c444282170427216e42603284251a1042429b4423032642200ae4211a6c420052241f186e41e01b841d015c41c029041b026041a2752419229841822964172750416003e415274e414032441305de41201984112294410274c40f274a40e1a0e40d08cc40c1a6a40b274840a158c4090322408000840708ca4060906405051c4040000c00,
  0x55c455055a454053c45305344520f924510f984500e8644f0b6644e092c448053a447032e44114d443429bc43329ba43229b843108ce430052842f1d7c42d0f9442c1d8042b092a42a1c444282170427216e42603284251a1042429b4423032642200ae4211a6c420052241f186e41e01b841d015c41c029041b026041a2752419229841822964172750416003e415274e414032441305de41201984112294410274c40f274a40e1a0e40d08cc40c1a6a40b274840a158c4090322408000840708ca4060906405051c4040000c00,
  0x55c455055a454053c45305344520f924510f984500f2044f0b6644e092c448053a447032e44114d443429bc43329ba43229b843108ce430052842f1d7c42d0f9442c1d8042b092a42a1c444282170427216e42603284251a1042429b4423032642200ae4211a6c420052241f186e41e01b841d015c41c029041b026041a2752419229841822964172750416003e415274e414032441305de41201984112294410274c40f274a40e1a0e40d08cc40c1a6a40b274840a158c4090322408000840708ca4060906405051c4040000c00,
  0x5624550560454054045305364520f924510f984500b7044f0b6644e0944448053e447032e44114d443429bc43329ba43229b843108d4430052a42f1d7c42d0f9442c1d8042b094242a1c444282170427216e42603284251a1042429b4423032642200b04211a6c420052441f186e41e01b841d015c41c029041b026041a2752419229841822964172750416003e415274e414032441305de41201984112294410274c40f274a40e1a0e40d08d240c1a6a40b274840a158c4090322408000840708d04060922405051e4040000c00,
  0x5684550566454054445305384520f924510f984500b7044f0b6644e094c4480542447032e44114d443429bc43329ba43229b843108da430052c42f1d7c42d0f9442c1d8042b094a42a1c444282170427216e42603284251a1042429b4423032642200b24211a6c420052641f186e41e01b841d015c41c029041b026041a2752419229841822964172750416003e415274e414032441305de41201984112294410274c40f274a40e1a0e40d08d840c1a6a40b274840a158c4090322408000840708d6406092440505204040000c00,
  0x5085629bd433005083329bb432005083229b9431005083108ef4300050830054742f005082f09ef42e005082e1d7d42d005082d0f9542c005082c29b742b005082b09ed42a005082a0f9342900508291c45428005082821714270050827216f4260050826032942500508251a11424005082429b542300508230327422005082200e142100508211a6d4200050820057741f005081f186f41e005081e01af41d005081d015d41c005081c029141b005081b026141a005081a27534190050819229941800508182297417005081727514160050816003f4150050815274f41400508140325413005081305df41200508120199411005081122954100050810274d40f005080f274b40e005080e1a0f40d005080d08ed40c005080c1a6b40b005080b274940a005080a158d4090050809032340800508080009407005080708eb406005080609b54050050805052f40400508040000c00,
  0x13885729bc43329ba43229b843108ee430054642f09ee42e1d7c42d0f9442c29b642b09ec42a0f924291c444282170427216e42603284251a1042429b4423032642200e04211a6c420057641f186e41e01ae41d015c41c029041b026041a2752419229841822964172750416003e415274e414032441305de41201984112294410274c40f274a40e1a0e40d08ec40c1a6a40b274840a158c4090322408000840708ea40609b4405052e4040000c00,
  0x17385729bc43329ba43229b843108ee430054642f09ee42e1d7c42d0f9442c29b642b09ec42a0f924291c444282170427216e42603284251a1042429b4423032642200e04211a6c420057641f186e41e01ae41d015c41c029041b026041a2752419229841822964172750416003e415274e414032441305de41201984112294410274c40f274a40e1a0e40d08ec40c1a6a40b274840a158c4090322408000840708ea40609b4405052e4040000c00,
  0x17485729bc43329ba43229b843108ee430054642f09ee42e1d7c42d0f9442c29b642b09ec42a0f924291c444282170427216e42603284251a1042429b4423032642200e04211a6c420057641f186e41e01ae41d015c41c029041b026041a2752419229841822964172750416003e415274e414032441305de41201984112294410274c40f274a40e1a0e40d08ec40c1a6a40b274840a158c4090322408000840708ea40609b4405052e4040000c00,
  0x19285729bc43329ba43229b843108ee430054642f09ee42e1d7c42d0f9442c29b642b09ec42a0f924291c444282170427216e42603284251a1042429b4423032642200e04211a6c420057641f186e41e01ae41d015c41c029041b026041a2752419229841822964172750416003e415274e414032441305de41201984112294410274c40f274a40e1a0e40d08ec40c1a6a40b274840a158c4090322408000840708ea40609b4405052e4040000c00,
  0x29bc43329ba43229b843108ee430054642f09ee42e1d7c42d0f9442c29b642b09ec42a0f924291c444282170427216e42603284251a1042429b4423032642200e04211a6c420057641f186e41e01ae41d015c41c029041b026041a2752419229841822964172750416003e415274e414032441305de41201984112294410274c40f274a40e1a0e40d08ec40c1a6a40b274840a158c4090322408000840708ea40609b4405052e40400018020000c00,
  0x29bc43329ba43229b843108ee430054642f09ee42e1d7c42d0f9442c29b642b09ec42a0f924291c444282170427216e42603284251a1042429b4423032642200e04211a6c420057641f186e41e01ae41d015c41c029041b026041a2752419229841822964172750416003e415274e414032441305de41201984112294410274c40f274a40e1a0e40d08ec40c1a6a40b274840a158c4090322408000840708ea40609b4405052e40400118020000c00,
  0x59244f29bc43329ba43229b843108ee430054642f09ee42e1d7c42d0f9442c29b642b09ec42a0f924291c444282170427216e42603284251a1042429b4423032642200e04211a6c420057641f186e41e01ae41d015c41c029041b026041a2752419229841822964172750416003e415274e414032441305de41201984112294410274c40f274a40e1a0e40d08ec40c1a6a40b274840a158c4090322408000840708ea40609b4405052e4040000c00,
  0x59444f29bc43329ba43229b843108ee430054642f09ee42e1d7c42d0f9442c29b642b09ec42a0f924291c444282170427216e42603284251a1042429b4423032642200e04211a6c420057641f186e41e01ae41d015c41c029041b026041a2752419229841822964172750416003e415274e414032441305de41201984112294410274c40f274a40e1a0e40d08ec40c1a6a40b274840a158c4090322408000840708ea40609b4405052e4040000c00,
  0xd4044f29bc43329ba43229b843108ee430054642f09ee42e1d7c42d0f9442c29b642b09ec42a0f924291c444282170427216e42603284251a1042429b4423032642200e04211a6c420057641f186e41e01ae41d015c41c029041b026041a2752419229841822964172750416003e415274e414032441305de41201984112294410274c40f274a40e1a0e40d08ec40c1a6a40b274840a158c4090322408000840708ea40609b4405052e4040000c00,
  0x1ee44f29bc43329ba43229b843108ee430054642f09ee42e1d7c42d0f9442c29b642b09ec42a0f924291c444282170427216e42603284251a1042429b4423032642200e04211a6c420057641f186e41e01ae41d015c41c029041b026041a2752419229841822964172750416003e415274e414032441305de41201984112294410274c40f274a40e1a0e40d08ec40c1a6a40b274840a158c4090322408000840708ea40609b4405052e4040000c00,
  0x1f444f29bc43329ba43229b843108ee430054642f09ee42e1d7c42d0f9442c29b642b09ec42a0f924291c444282170427216e42603284251a1042429b4423032642200e04211a6c420057641f186e41e01ae41d015c41c029041b026041a2752419229841822964172750416003e415274e414032441305de41201984112294410274c40f274a40e1a0e40d08ec40c1a6a40b274840a158c4090322408000840708ea40609b4405052e4040000c00,
  0xd5844f29bc43329ba43229b843108ee430054642f09ee42e1d7c42d0f9442c29b642b09ec42a0f924291c444282170427216e42603284251a1042429b4423032642200e04211a6c420057641f186e41e01ae41d015c41c029041b026041a2752419229841822964172750416003e415274e414032441305de41201984112294410274c40f274a40e1a0e40d08ec40c1a6a40b274840a158c4090322408000840708ea40609b4405052e4040000c00,
  0xc4444f29bc43329ba43229b843108ee430054642f09ee42e1d7c42d0f9442c29b642b09ec42a0f924291c444282170427216e42603284251a1042429b4423032642200e04211a6c420057641f186e41e01ae41d015c41c029041b026041a2752419229841822964172750416003e415274e414032441305de41201984112294410274c40f274a40e1a0e40d08ec40c1a6a40b274840a158c4090322408000840708ea40609b4405052e4040000c00,
  0xbb044f29bc43329ba43229b843108ee430054642f09ee42e1d7c42d0f9442c29b642b09ec42a0f924291c444282170427216e42603284251a1042429b4423032642200e04211a6c420057641f186e41e01ae41d015c41c029041b026041a2752419229841822964172750416003e415274e414032441305de41201984112294410274c40f274a40e1a0e40d08ec40c1a6a40b274840a158c4090322408000840708ea40609b4405052e4040000c00,
  0x13ea44f29bc43329ba43229b843108ee430054642f09ee42e1d7c42d0f9442c29b642b09ec42a0f924291c444282170427216e42603284251a1042429b4423032642200e04211a6c420057641f186e41e01ae41d015c41c029041b026041a2752419229841822964172750416003e415274e414032441305de41201984112294410274c40f274a40e1a0e40d08ec40c1a6a40b274840a158c4090322408000840708ea40609b4405052e4040000c00,
  0x13ec44f29bc43329ba43229b843108ee430054642f09ee42e1d7c42d0f9442c29b642b09ec42a0f924291c444282170427216e42603284251a1042429b4423032642200e04211a6c420057641f186e41e01ae41d015c41c029041b026041a2752419229841822964172750416003e415274e414032441305de41201984112294410274c40f274a40e1a0e40d08ec40c1a6a40b274840a158c4090322408000840708ea40609b4405052e4040000c00,
  0x13f844f29bc43329ba43229b843108ee430054642f09ee42e1d7c42d0f9442c29b642b09ec42a0f924291c444282170427216e42603284251a1042429b4423032642200e04211a6c420057641f186e41e01ae41d015c41c029041b026041a2752419229841822964172750416003e415274e414032441305de41201984112294410274c40f274a40e1a0e40d08ec40c1a6a40b274840a158c4090322408000840708ea40609b4405052e4040000c00,
  0x5b244f29bc43329ba43229b843108ee430054642f09ee42e1d7c42d0f9442c29b642b09ec42a0f924291c444282170427216e42603284251a1042429b4423032642200e04211a6c420057641f186e41e01ae41d015c41c029041b026041a2752419229841822964172750416003e415274e414032441305de41201984112294410274c40f274a40e1a0e40d08ec40c1a6a40b274840a158c4090322408000840708ea40609b4405052e4040000c00,
  0x13f044f29bc43329ba43229b843108ee430054642f09ee42e1d7c42d0f9442c29b642b09ec42a0f924291c444282170427216e42603284251a1042429b4423032642200e04211a6c420057641f186e41e01ae41d015c41c029041b026041a2752419229841822964172750416003e415274e414032441305de41201984112294410274c40f274a40e1a0e40d08ec40c1a6a40b274840a158c4090322408000840708ea40609b4405052e4040000c00,
  0x5b644f29bc43329ba43229b843108ee430054642f09ee42e1d7c42d0f9442c29b642b09ec42a0f924291c444282170427216e42603284251a1042429b4423032642200e04211a6c420057641f186e41e01ae41d015c41c029041b026041a2752419229841822964172750416003e415274e414032441305de41201984112294410274c40f274a40e1a0e40d08ec40c1a6a40b274840a158c4090322408000840708ea40609b4405052e4040000c00,
  0x29bc43329ba43229b843108fa430054c42f0a2242e1d7c42d0f9442c29b642b0a2042a0f924291c444282170427216e42603284251a1042429b4423032642200ec4211c30420057e41f18aa41e01ae41d015c41c029041b026041a2752419229841822964172750416003e4152970414032441305de4120198411272a410274c40f296e40e1a0e40d08f840c1a6a40b296c40a158c4090322408000a40708f640609dc40505304040000c00,
  0x29bc43329ba43229b843108ee430054642f09ee42e1d7c42d0f9442c29b642b09ec42a0f924291c444282170427216e42603284251a1042429b4423032642200e04211a6c420057641f186e41e01ae41d015c41c029041b026041a2752419229841822964172750416003e415274e414032441305de41201984112294410274c40f274a40e1a0e40d08ec40c1a6a40b274840a158c4090322408000840708ea40609b4405052e4040000c00,
  0xdb045903a4458020244e0a6844d15b644c2a1844b08a044a2c484490a1444801864470c4c446122844510d844401bc4430148441024c43f097443e089e43d03b0439089a438089843715ca4342c504311d7c42d10de42c2a9842b095e42a1a504282234427223242603764251a484242b6e42303b642201144211c18420056c41f18a041e008641d015a41c03a641300c641115cc40d226240908bc40708dc4060000c00,
  0x29bc43329ba43229b843108fc430054e42f0a3242e1d7c42d0f9442c29b642b0a3042a0f924291c444282170427216e42603284251a1042429b4423032642200f44211c30420058441f18aa41e01ae41d015c41c029041b026041a2752419229841822964172750416003e41529a4414032441305de41201984112742410274c40f29b240e1a0e40d090240c1a6a40b29a240a158c4090322408000a407090440609ea40505324040000c00,
  0xb9645903a4458020244e0a6844d15b644c2a1844b08a044a2c484490a1444801864470c4c446122844510d844401bc4430148441024c43f097443e089e43d03b0439089a438089843715ca4342c504311d7c42d10de42c2a9842b095e42a1a504282234427223242603764251a484242b6e42303b642201144211c18420056c41f18a041e008641d015a41c03a641300c641115cc40d226240908bc40708dc4060000c00,
  0xf2a45903a4458020244e0a6844d15b644c2a1844b08a044a2c484490a1444801864470c4c446122844510d844401bc4430148441024c43f097443e089e43d03b0439089a438089843715ca4342c504311d7c42d10de42c2a9842b095e42a1a504282234427223242603764251a484242b6e42303b642201144211c18420056c41f18a041e008641d015a41c03a641300c641115cc40d226240908bc40708dc4060000c00,
  0xde445903a4458020244e0a6844d15b644c2a1844b08a044a2c484490a1444801864470c4c446122844510d844401bc4430148441024c43f097443e089e43d03b0439089a438089843715ca4342c504311d7c42d10de42c2a9842b095e42a1a504282234427223242603764251a484242b6e42303b642201144211c18420056c41f18a041e008641d015a41c03a641300c641115cc40d226240908bc40708dc4060000c00,
  0xf4045903a4458020244e0a6844d15b644c2a1844b08a044a2c484490a1444801864470c4c446122844510d844401bc4430148441024c43f097443e089e43d03b0439089a438089843715ca4342c504311d7c42d10de42c2a9842b095e42a1a504282234427223242603764251a484242b6e42303b642201144211c18420056c41f18a041e008641d015a41c03a641300c641115cc40d226240908bc40708dc4060000c00,
  0xf4a45903a4458020244e0a6844d15b644c2a1844b08a044a2c484490a1444801864470c4c446122844510d844401bc4430148441024c43f097443e089e43d03b0439089a438089843715ca4342c504311d7c42d10de42c2a9842b095e42a1a504282234427223242603764251a484242b6e42303b642201144211c18420056c41f18a041e008641d015a41c03a641300c641115cc40d226240908bc40708dc4060000c00,
  0x111245903a4458020244e0a6844d15b644c2a1844b08a044a2c484490a1444801864470c4c446122844510d844401bc4430148441024c43f097443e089e43d03b0439089a438089843715ca4342c504311d7c42d10de42c2a9842b095e42a1a504282234427223242603764251a484242b6e42303b642201144211c18420056c41f18a041e008641d015a41c03a641300c641115cc40d226240908bc40708dc4060000c00,
  0x111a45903a4458020244e0a6844d15b644c2a1844b08a044a2c484490a1444801864470c4c446122844510d844401bc4430148441024c43f097443e089e43d03b0439089a438089843715ca4342c504311d7c42d10de42c2a9842b095e42a1a504282234427223242603764251a484242b6e42303b642201144211c18420056c41f18a041e008641d015a41c03a641300c641115cc40d226240908bc40708dc4060000c00,
  0x124845903a4458020244e0a6844d15b644c2a1844b08a044a2c484490a1444801864470c4c446122844510d844401bc4430148441024c43f097443e089e43d03b0439089a438089843715ca4342c504311d7c42d10de42c2a9842b095e42a1a504282234427223242603764251a484242b6e42303b642201144211c18420056c41f18a041e008641d015a41c03a641300c641115cc40d226240908bc40708dc4060000c00,
  0xde845903a4458020244e0a6844d15b644c2a1844b08a044a2c484490a1444801864470c4c446122844510d844401bc4430148441024c43f097443e089e43d03b0439089a438089843715ca4342c504311d7c42d10de42c2a9842b095e42a1a504282234427223242603764251a484242b6e42303b642201144211c18420056c41f18a041e008641d015a41c03a641300c641115cc40d226240908bc40708dc4060000c00,
  0xa1045d004045c001585c29e245b000285a0e3c44f0292440001583d035843b000383a1d7c42d0f5242c2b9842b0a1e42a0f924291c444282170427216e42603e84251a4842429b4423041642200e84211a74420057c41f187041e01ae41d016a41c04144130198411217440904124080b4840708f44060000c00,
  0xa1045d004045c001585c29e245b000285a0d1244f0292440001583d035843b000383a1d7c42d0f5242c2b9842b0a1e42a0f924291c444282170427216e42603e84251a4842429b4423041642200e84211a74420057c41f187041e01ae41d016a41c04144130198411217440904124080b4840708f44060000c00,
  0xa1045d004045c001585c29e245b000285a0d3c44f0292440001583d035843b000383a1d7c42d0f5242c2b9842b0a1e42a0f924291c444282170427216e42603e84251a4842429b4423041642200e84211a74420057c41f187041e01ae41d016a41c04144130198411217440904124080b4840708f44060000c00,
  0xc4c4610412460041245f000285f000285e098645d0fbe445033044102bc440002383d002383c000283c037843b002383b000383a1d7c42d0dbc42c2b9842b098842a1cfc42800028282234427223242603e842500028251a4842400028242b6e4230002823041642200ce4211c18420056e41f18a041e01c241d000281d016a41c0414413019a411000281122624090b5040708de4060000c00,
  0x238620c4c4610412460041245f000285f000285e098645d1000445033044102da44003ea43b002383b000383a1d7c42d0dbc42c2b9842b098842a1cfc42800028282234427223242603e842500028251a4842400028242b6e4230002823041642200ce4211c18420056e41f18a041e01c241d000281d016a41c0414413019a411000281122624090b5040708de4060000c00,
  0x238620c4c4610412460041245f000285f000285e098645d1002445033044102da44003ea43b002383b000383a1d7c42d0dbc42c2b9842b098842a1cfc42800028282234427223242603e842500028251a4842400028242b6e4230002823041642200ce4211c18420056e41f18a041e01c241d000281d016a41c0414413019a411000281122624090b5040708de4060000c00,
  0x22aa464097446303a4458021245502104540a6844d15b644c2a1844b079244a2a1644909ce44800064470c4c4460ea2445110444401bc4430330441024a43f079043d03ae439078c438078a43715ca4342a144311d7c42d0ea442c2a9842b098e42a1a584282234427223242603764251a484242b6e42303b642200ea4211c18420056c41f18a041e008441d015a41c03a641300c641115cc40d226240908ba40708dc4060000c00,
  0x238620c4c4610412460041245f000285f000285e098645d104c445033044102da44003ea43b002383b000383a1d7c42d0dbc42c2b9842b098842a1cfc42800028282234427223242603e842500028251a4842400028242b6e4230002823041642200ce4211c18420056e41f18a041e01c241d000281d016a41c0414413019a411000281122624090b5040708de4060000c00,
  0x238620c4c4610412460041245f000285f000285e098645d104e445033044102da44003ea43b002383b000383a1d7c42d0dbc42c2b9842b098842a1cfc42800028282234427223242603e842500028251a4842400028242b6e4230002823041642200ce4211c18420056e41f18a041e01c241d000281d016a41c0414413019a411000281122624090b5040708de4060000c00,
  0x238620c4c4610412460041245f000285f000285e098645d1052445033044102da44003ea43b002383b000383a1d7c42d0dbc42c2b9842b098842a1cfc42800028282234427223242603e842500028251a4842400028242b6e4230002823041642200ce4211c18420056e41f18a041e01c241d000281d016a41c0414413019a411000281122624090b5040708de4060000c00,
  0x238620c4c4610412460041245f000285f000285e098645d107e445033044102da44003ea43b002383b000383a1d7c42d0dbc42c2b9842b098842a1cfc42800028282234427223242603e842500028251a4842400028242b6e4230002823041642200ce4211c18420056e41f18a041e01c241d000281d016a41c0414413019a411000281122624090b5040708de4060000c00,
  0x238620c4c4610412460041245f000285f000285e098645d0fbe445033044102da44003ea43b002383b000383a1d7c42d0dbc42c2b9842b098842a1cfc42800028282234427223242603e842500028251a4842400028242b6e4230002823041642200ce4211c18420056e41f18a041e01c241d000281d016a41c0414413019a411000281122624090b5040708de4060000c00,
  0x2386600028660002865099c45d2aa845b02bc440002383d037843b002383b000383a1d7c42d0c4642c2b9842b09ac42a0c4c4291cfc4282234427223242603e84251a484242b6e423041642200d84211c18420057441f18a041e01c041d016a41c0414413019a411226240904124080b4e40708e44060000c00,
  0x22aa46409864630412458021e455021c4540a6844d15b644c2a1844b079244a2a1644909be44800044470c4c4460e6844510d844402084430330441024843f079043d03ac439078c438078a43715ca4342a144311d7c42d0e6a42c2b9842b098042a1a504282234427223242603e84251a484242b6e423041642200e64211c18420056e41f18a041e008041d016a41c041441300c641115cc40d226240908b640708de4060000c00,
  0x2386700028650ae445d2aa845b02da44003ea43b002383b000383a1d7c42d0c4642c2b9842b0b0242a0c4c4291cfc4282234427223242603e84251a484242b6e423041642201344211c1842005d041f18a041e01be41d016a41c0414413019a411226240904124080b4c40709a24060000c00,
  0x6186700028650ae445d2aa845b02da44003ea43b000383a1d7c42d0c4642c2b9842b0b0242a0c4c4291cfc4282234427223242603e84251a484242b6e423041642201344211c1842005d041f18a041e01be41d016a41c0414413019a411226240904124080b4c40709a24060000c00,
  0x2868099c45d2aa845b02bc440037843b000383a1d7c42d0c4642c2b9842b09ac42a0c4c4291cfc4282234427223242603e84251a484242b6e423041642200d84211c18420057441f18a041e01c041d016a41c0414413019a411226240904124080b4e40708e44060000c00,
  0x28680ae445d2aa845b02bc44003ea43b000383a1d7c42d0c4642c2b9842b0b0242a0c4c4291cfc4282234427223242603e84251a484242b6e423041642201344211c1842005d041f18a041e01be41d016a41c0414413019a411226240904124080b4c40709a24060000c00,
  0xa1045d004045c29e245b000285a0292440032c43b000383a1d7c42d0f5242c2b9842b0a1e42a0f924291c444282170427216e42603e84251a4842429b4423041642200e84211a74420057c41f187041e01ae41d016a41c04144130198411217440904124080b4840708f44060000c00,
  0x28690a1045d29e245b0292440032c43b000383a1d7c42d0f5242c2b9842b0a1e42a0f924291c444282170427216e42603e84251a4842429b4423041642200e84211a74420057c41f187041e01ae41d016a41c04144130198411217440904124080b4840708f44060000c00,
  0x286500238620ae445d2aa845b02da44003ea43b002383b000383a1d7c42d0c4642c2b9842b0b0242a0c4c4291cfc4282234427223242603e84251a484242b6e423041642201344211c1842005d041f18a041e01be41d016a41c0414413019a411226240904124080b4c40709a24060000c00]

/-- The rows of actions 64 to 127. -/
def rows1 : Array Nat := #[
  0x28690ae445d29e245b029244003ea43b000383a1d7c42d0c4642c2b9842b0b0242a0c4c4291cfc4282234427223242603e84251a484242b6e423041642201344211c1842005d041f18a041e01be41d016a41c0414413019a411226240904124080b4c40709a24060000c00,
  0x2865099c45d2aa845b02bc440002383d002383c000283c037843b002383b000383a1d7c42d0c4642c2b9842b09ac42a0c4c4291cfc4282234427223242603e84251a484242b6e423041642200d84211c18420057441f18a041e01c041d016a41c0414413019a411226240904124080b4e40708e44060000c00,
  0xa1045d006045c29e245b000285a0292440032c43b000383a1d7c42d0f5242c2b9842b0a1e42a0f924291c444282170427216e42603e84251a4842429b4423041642200e84211a74420057c41f187041e01ae41d016a41c04144130198411217440904124080b4840708f44060000c00,
  0x286a0a2845d29e245b02e6440041843b000383a1d7c42d0f5242c2b9842b0a2a42a0f924291c444282170427216e42603e84251a484242bb6423041642200f24211a74420058241f187041e01ae41d016a41c04144130198411217440904124080b4840709004060000c00,
  0x286a0ae445d29e245b02e644003ea43b000383a1d7c42d0c4642c2b9842b0b0242a0c4c4291cfc4282234427223242603e84251a484242b6e423041642201344211c1842005d041f18a041e01be41d016a41c0414413019a411226240904124080b4c40709a24060000c00,
  0xa1045d009045c29e245b000285a0292440032c43b000383a1d7c42d0f5242c2b9842b0a1e42a0f924291c444282170427216e42603e84251a4842429b4423041642200e84211a74420057c41f187041e01ae41d016a41c04144130198411217440904124080b4840708f44060000c00,
  0x6186b000286b0002865099c45d2aa845b02bc440037843b000383a1d7c42d0c4642c2b9842b09ac42a0c4c4291cfc4282234427223242603e84251a484242b6e423041642200d84211c18420057441f18a041e01c041d016a41c0414413019a411226240904124080b4e40708e44060000c00,
  0x2ac46e02ac46d000286d000286c099c45d2aa845b02bc440037843b000383a1d7c42d0c4642c2b9842b09ac42a0c4c4291cfc4282234427223242603e84251a484242b6e423041642200d84211c18420057441f18a041e01c041d016a41c0414413019a411226240904124080b4e40708e44060000c00,
  0x28650a9c45d07a845c2aa845b00238590002859002384e02fe440047443b002383b000383a1d7c42d0c4642c2b9842b0aae42a0c4c4291cfc4282234427223242603e84251a484242b6e423041642201244211c1842005ba41f18a041e01c041d016a41c0414413019a411226240904124080b4e407096a4060000c00,
  0x6186f000286f0002865099c45d006185c2aa845b02bc440037843b000383a1d7c42d0c4642c2b9842b09ac42a0c4c4291cfc4282234427223242603e84251a484242b6e423041642200d84211c18420057441f18a041e01c041d016a41c0414413019a411226240904124080b4e40708e44060000c00,
  0x28700a9c45d07a845c2aa845b02fe440047443b000383a1d7c42d0c4642c2b9842b0aae42a0c4c4291cfc4282234427223242603e84251a484242b6e423041642201244211c1842005ba41f18a041e01c041d016a41c0414413019a411226240904124080b4e407096a4060000c00,
  0x28700a9c45d07ba45c2aa845b02fe440047443b000383a1d7c42d0c4642c2b9842b0aae42a0c4c4291cfc4282234427223242603e84251a484242b6e423041642201244211c1842005ba41f18a041e01c041d016a41c0414413019a411226240904124080b4e407096a4060000c00,
  0x28650a9c45d2aa845b00238590002859002384e02fe440047443b002383b000383a1d7c42d0c4642c2b9842b0aae42a0c4c4291cfc4282234427223242603e84251a484242b6e423041642201244211c1842005ba41f18a041e01c041d016a41c0414413019a411226240904124080b4e407096a4060000c00,
  0x2387100028710002865099c45d2aa845b02bc440037843b002383b000383a1d7c42d0c4642c2b9842b09ac42a0c4c4291cfc4282234427223242603e84251a484242b6e423041642200d84211c18420057441f18a041e01c041d016a41c0414413019a411226240904124080b4e40708e44060000c00,
  0x28720a8845d29e245b02c844003ba43b000383a1d7c42d0f5242c2b9842b0a8a42a0f924291c444282170427216e42603e84251a4842429b44230416422010a4211a74420059e41f187041e01ae41d016a41c04144130198411217440904124080b4840709504060000c00,
  0x28720ae445d29e245b02c844003ea43b000383a1d7c42d0c4642c2b9842b0b0242a0c4c4291cfc4282234427223242603e84251a484242b6e423041642201344211c1842005d041f18a041e01be41d016a41c0414413019a411226240904124080b4c40709a24060000c00,
  0x28730a8e45d2aa845b02f2440044443b000383a1d7c42d0c4642c2b9842b0a9442a0c4c4291cfc4282234427223242603e84251a484242b6e423041642201104211c1842005a241f18a041e01c041d016a41c0414413019a411226240904124080b4e40709544060000c00,
  0x28730ae445d2aa845b02f244003ea43b000383a1d7c42d0c4642c2b9842b0b0242a0c4c4291cfc4282234427223242603e84251a484242b6e423041642201344211c1842005d041f18a041e01be41d016a41c0414413019a411226240904124080b4c40709a24060000c00,
  0x28740a5a45d2aa845b031644004dc43b000383a1d7c42d0c4642c2b9842b0a6242a0c4c4291cfc4282234427223242603e84251a484242ba6423041642201184211c18420058c41f18a041e01c041d016a41c0414413019a411226240904124080b4e40709284060000c00,
  0x2386f000286f0002865099c45d2aa845b02bc440037843b002383b000383a1d7c42d0c4642c2b9842b09ac42a0c4c4291cfc4282234427223242603e84251a484242b6e423041642200d84211c18420057441f18a041e01c041d016a41c0414413019a411226240904124080b4e40708e44060000c00,
  0x28740ae445d2aa845b031644003ea43b000383a1d7c42d0c4642c2b9842b0b0242a0c4c4291cfc4282234427223242603e84251a484242b6e423041642201344211c1842005d041f18a041e01be41d016a41c0414413019a411226240904124080b4c40709a24060000c00,
  0x28650ae445d006185c2aa845b02da44003ea43b000383a1d7c42d0c4642c2b9842b0b0242a0c4c4291cfc4282234427223242603e84251a484242b6e423041642201344211c1842005d041f18a041e01be41d016a41c0414413019a411226240904124080b4c40709a24060000c00,
  0x287502ac46e02ac46d000286d0ae445d2aa845b02da44003ea43b000383a1d7c42d0c4642c2b9842b0b0242a0c4c4291cfc4282234427223242603e84251a484242b6e423041642201344211c1842005d041f18a041e01be41d016a41c0414413019a411226240904124080b4c40709a24060000c00,
  0x28700a9c45d2aa845b02fe440047443b000383a1d7c42d0c4642c2b9842b0aae42a0c4c4291cfc4282234427223242603e84251a484242b6e423041642201244211c1842005ba41f18a041e01c041d016a41c0414413019a411226240904124080b4e407096a4060000c00,
  0x28760aa045d2aa845b030a44004a443b000383a1d7c42d0c4642c2b9842b0ab242a0c4c4291cfc4282234427223242603e84251a484242bc6423041642201284211c1842005be41f18a041e01be41d016a41c0414413019a411226240904124080b4c407096e4060000c00,
  0x28700ae445d2aa845b02fe44003ea43b000383a1d7c42d0c4642c2b9842b0b0242a0c4c4291cfc4282234427223242603e84251a484242b6e423041642201344211c1842005d041f18a041e01be41d016a41c0414413019a411226240904124080b4c40709a24060000c00,
  0x28760ae445d2aa845b030a44003ea43b000383a1d7c42d0c4642c2b9842b0b0242a0c4c4291cfc4282234427223242603e84251a484242b6e423041642201344211c1842005d041f18a041e01be41d016a41c0414413019a411226240904124080b4c40709a24060000c00,
  0x28650ae445d2aa845b02da440036243b000383a1d7c42d0c4642c2b9842b0b0242a0c4c4291cfc4282234427223242603e84251a484242b6e423041642201344211c1842005d041f18a041e01be41d016a41c0414413019a411226240904124080b4c40709a24060000c00,
  0x3a44580a7e44d179244c2ae644b07f444a2ae4449099244801884470c4c4460f504450f4c44401f84430330441025043f097443e07f243d03b443907ee43807ec43717da4342c304311d7c42d0de042c2a9842b096242a1a5e4282170427216e42603764251a484242b6e42303b642201044211c18420056c41f18a041e008e41d015a41c03a641300c841117dc40d226240908c840708dc4060000c00,
  0x28650ae445d2aa845b02da440039c43b000383a1d7c42d0c4642c2b9842b0b0242a0c4c4291cfc4282234427223242603e84251a484242b6e423041642201344211c1842005d041f18a041e01be41d016a41c0414413019a411226240904124080b4c40709a24060000c00,
  0x28650ae445d2aa845b02da44003ea43b000383a1d7c42d0c4642c2b9842b0b0242a0c4c4291cfc4282234427223242603e84251a484242b6e423041642201344211c1842005d041f18a041e01be41d016a41c0414413019a411226240904124080b4c40709a24060000c00,
  0x28650ae445d2aa845b02da440040a43b000383a1d7c42d0c4642c2b9842b0b0242a0c4c4291cfc4282234427223242603e84251a484242b6e423041642201344211c1842005d041f18a041e01be41d016a41c0414413019a411226240904124080b4c40709a24060000c00,
  0x28650ae445d2aa845b02da440046443b000383a1d7c42d0c4642c2b9842b0b0242a0c4c4291cfc4282234427223242603e84251a484242b6e423041642201344211c1842005d041f18a041e01be41d016a41c0414413019a411226240904124080b4c40709a24060000c00,
  0x28650ae445d2aa845b02da440049443b000383a1d7c42d0c4642c2b9842b0b0242a0c4c4291cfc4282234427223242603e84251a484242b6e423041642201344211c1842005d041f18a041e01be41d016a41c0414413019a411226240904124080b4c40709a24060000c00,
  0x28650ae445d2aa845b02da44004c443b000383a1d7c42d0c4642c2b9842b0b0242a0c4c4291cfc4282234427223242603e84251a484242b6e423041642201344211c1842005d041f18a041e01be41d016a41c0414413019a411226240904124080b4c40709a24060000c00,
  0x28650ae445d2aa845b02da44003de43b000383a1d7c42d0c4642c2b9842b0b0242a0c4c4291cfc4282234427223242603e84251a484242b6e423041642201344211c1842005d041f18a041e01be41d016a41c0414413019a411226240904124080b4c40709a24060000c00,
  0x28650ae445d2aa845b02da44004fc43b000383a1d7c42d0c4642c2b9842b0b0242a0c4c4291cfc4282234427223242603e84251a484242b6e423041642201344211c1842005d041f18a041e01be41d016a41c0414413019a411226240904124080b4c40709a24060000c00,
  0x28650ae445d2aa845b02da440043a43b000383a1d7c42d0c4642c2b9842b0b0242a0c4c4291cfc4282234427223242603e84251a484242b6e423041642201344211c1842005d041f18a041e01be41d016a41c0414413019a411226240904124080b4c40709a24060000c00,
  0x3a44580a6844d15b644c2a1844b079244a2a164490a50448016c4470c4c4461320445110444401bc443024a43f099043e079043d03ae439078c438078a43715ca4342a144311d7c42d123842c2a9842b0a1a42a1a584282234427223242603764251a484242b6e42303b642200d24211c18420057241f18a041e008c41d015a41c03a641300c641115cc40d226240908c640708e24060000c00,
  0x3224580a6844d15b644c2a1844b079244a2a1644909bc448016e4470f924460e504450e4e444021a443024043f09f243e079043d0368439078c438078a43715ca4342a144311d7c42d0e5242c29b642b097c42a1a184282170427216e42603284251a1042429b4423032642200e44211a74420057841f187041e004c41d015c41c032441300ba41115cc40d217440908b240708f04060000c00,
  0x4124580a6844d15b644c2a1844b079244a2a164490a0c44801904470c4c446131644513224440208443024e43f0aa443e079043d03b2439078c438078a43715ca4342a144311d7c42d106042c2b9842b09c242a1a5c4282234427223242603e84251a484242b6e4230416422011a4211c1842005c041f18a041e008a41d016a41c041441300c641115cc40d226240908c040709704060000c00,
  0x3a44580a6844d15b644c2a1844b079244a2a164490a1244801804470c4c446122844510d844401bc443024c43f09fa43e079043d03b0439078c438078a43715ca4342a144311d7c42d10c242c2a9842b09d042a1a504282234427223242603764251a484242b6e42303b642200fc4211c18420057a41f18a041e008641d015a41c03a641300c641115cc40d226240908c440708f24060000c00,
  0x3a44580a6844d15b644c2a1844b079244a2a164490960448016c4470c4c4460ca24450ca044401bc443024443f099043e079043d03a0439078c438078a43715ca4342a144311d7c42d0d4642c2a9842b093642a1a4c4282234427223242603764251a484242b6e42303b642200d24211c18420057241f18a041e006c41d015a41c03a641300c641115cc40d226240908b440708e24060000c00,
  0x4d44580a6844d15b644c2a1844b079244a2a164490a18448018a4470f9244612364451240444022c443025243f0a8643e079043d03e4439078c438078a43715ca4342a144311d7c42d10fe42c2bd842b09d642a1a5a4282170427216e42604d84251a1042429b4423051442201084211a74420059c41f187041e008841d016041c04d641300ba41115cc40d217440908be407094e4060000c00,
  0x4124580a6844d15b644c2a1844b079244a2a164490a7644801964470c4c4460f244450f344440208443025443f0ae443e079043d040e439078c438078a43715ca4342a144311d7c42d130a42c2b9842b0a4a42a1a544282234427223242603e84251a484242b6e423041642201304211c1842005d041f18a041e008241d016a41c041441300c641115cc40d226240908b840709a24060000c00,
  0x50c4580a6844d15b644c2a1844b079244a2a1644909de44801704470f924460e504450e4e444022e443025643f0a2643e079043d043e439078c438078a43715ca4342a144311d7c42d0f5642c2c2242b099842a1a184282170427216e42603b84251a104242bb6423051842200f04211a74420058041f187041e004c41d015e41c050e41300ba41115cc40d217440908b240708fe4060000c00,
  0x46c4580a6844d15b644c2a1844b079244a2a164490a2e448018c4470c4c4460f244450f344440230443025843f0a8c43e079043d0468439078c438078a43715ca4342a144311d7c42d11c642c2baa42b09e842a1a544282234427223242605104251a484242b6e4230470422010c4211c1842005a041f18a041e008241d016441c046e41300c641115cc40d226240908c240709524060000c00,
  0x49c4580a6844d15b644c2a1844b079244a2a164490a5e44801924470c4c4460f244450f344440232443025a43f0a9a43e079043d0498439078c438078a43715ca4342a144311d7c42d12ca42c2bba42b0a3642a1a544282234427223242605124251a484242b6e42304a0422011e4211c1842005b841f18a041e008241d016841c049e41300c641115cc40d226240908c240709684060000c00,
  0x5044580a6844d15b644c2a1844b079244a2a164490a2c448018e4470c4c4460ca24450ca04440236443025e43f0a5843e079043d0500439078c438078a43715ca4342a144311d7c42d11c442c2c0a42b09e642a1a4c4282234427223242604da4251a484242ba6423050842201124211c18420058a41f18a041e006c41d016241c050641300c641115cc40d226240908b440709264060000c00,
  0x4cc4580a6844d15b644c2a1844b079244a2a164490a6044801944470c4c4460f244450f344440234443025c43f0a9e43e079043d04c8439078c438078a43715ca4342a144311d7c42d12cc42c2bca42b0a3842a1a544282234427223242604424251a484242bc642304d042201204211c1842005bc41f18a041e008241d016641c04ce41300c641115cc40d226240908b8407096c4060000c00,
  0x6877099045d037a4341d7c42d0dba42c2a9842b098442a0c4c4291cfc4282234427223242603764251a484242b6e42303b642200d44211c18420057241f18a041e01c041d015a41c03a6413019a411226240903a44080b4e40708e24060000c00,
  0x687809f245d03324341d7c42d0f9442c29b642b09f442a0f924291c444282170427216e42603284251a1042429b4423032642200e24211a74420057841f187041e01ae41d015c41c03244130198411217440903224080b4840708f04060000c00,
  0x68790a2645d041a4341d7c42d11d042c2c2242b0a3442a0f924291c444282170427216e42603b84251a104242bb6423051842200ee4211a74420058041f187041e01ae41d015e41c050e41301984112174409050c4080b4840708fe4060000c00,
  0x687a0a8645d03bc4341d7c42d136e42c2bd842b0a9042a0f924291c444282170427216e42604d84251a1042429b4423051442201064211a74420059c41f187041e01ae41d016041c04d64130198411217440904d44080b48407094e4060000c00,
  0x687b0a5845d04de4341d7c42d12ce42c2c0a42b0a6442a0c4c4291cfc4282234427223242604da4251a484242ba6423050842201164211c18420058a41f18a041e01c041d016241c0506413019a411226240905044080b4e40709264060000c00,
  0x687c0a8c45d04464341d7c42d137642c2baa42b0a9242a0c4c4291cfc4282234427223242605104251a484242b6e4230470422010e4211c1842005a041f18a041e01c041d016441c046e413019a4112262409046c4080b4e40709524060000c00,
  0x687d0a9e45d04a64341d7c42d13c242c2bca42b0ab042a0c4c4291cfc4282234427223242604424251a484242bc642304d042201264211c1842005bc41f18a041e01be41d016641c04ce413019a411226240904cc4080b4c407096c4060000c00,
  0x687e0a9a45d04764341d7c42d13c042c2bba42b0aac42a0c4c4291cfc4282234427223242605124251a484242b6e42304a042201224211c1842005b841f18a041e01c041d016841c049e413019a4112262409049c4080b4e40709684060000c00,
  0x687f0ae445d03ec4341d7c42d0c4642c2b9842b0b0242a0c4c4291cfc4282234427223242603e84251a484242b6e423041642201344211c1842005d041f18a041e01be41d016a41c0414413019a411226240904124080b4c40709a24060000c00,
  0x15ce48315b64820a6848100028802a1844b079244a2a16449078e44715d044502bc4401a1643f079043d037843b000383a2a12439078c438078a43715ca4342a14431158842a1d9e4282244427224242622b642421a2421064241d00cc41115cc40d22f64090000c00,
  0x288415ce48315b64820a684812a1844b079244a2a16449078e44715d044502924401a1643f079043d032c43b000383a2a12439078c438078a43715ca4342a14431158842a1d9e4282244427224242622b642421a2421064241d00cc41115cc40d22f64090000c00,
  0x288515ce48315b64820a684812a1844b079244a2a16449078e44715d044502e64401a1643f079043d041843b000383a2a12439078c438078a43715ca4342a14431158842a1d9e4282244427224242622b642421a2421064241d00cc41115cc40d22f64090000c00,
  0xa8648629bc43329ba43229b84310930430055e42f1d7c42d136e42c2bd842b0a9042a0f924291c444282170427216e42604d84251a1042429b4423051442201064211a6c420059041f186e41e01ae41d016041c04d641301984111a0e40d092e40c1a6a40b1d8a40904d44080b4840709384060a3c4050000c00,
  0xa8648629bc43329ba43229b84310956430056a42f1d7c42d136e42c2bd842b0a9042a0f924291c444282170427216e42604d84251a1042429b4423051442201064211c3042005a441f18aa41e01ae41d016041c04d641301984111a0e40d092e40c1a6a40b1d8a40904d44080b48407094e4060a3c4050000c00]

/-- The rows of actions 128 to 191. -/
def rows2 : Array Nat := #[
  0x288715ce48315b64820a684812a1844b079244a2a16449078e44715d044502da4401a1643f079043d002383c03ea43b002383b000383a2a12439078c438078a43715ca4342a14431158842a1d9e4282244427224242622b642421a2421064241d00cc41115cc40d22f64090000c00,
  0xa864862b724332b704322bda4310948430056442f1d7c42d136e42c2bd842b0a9042a0f924291c444282170427216e42604d84251a1042429b4423051442201064211c4042005a641f18b241e01ae41d016041c04d641301984111a6040d094640c1c1440b216c40904d44080b48407094e4060a564050000c00,
  0x288715ce48315b64820a68481006186f000286f006185c2a1844b079244a2a16449078e44715d044502bc4401a1643f079043d037843b000383a2a12439078c438078a43715ca4342a14431158842a1d9e4282244427224242622b642421a2421064241d00cc41115cc40d22f64090000c00,
  0xa8648629bc43329ba43229b84310930430055e42f1d7c42d136e42c2bd842b0a9042a0f924291c444282170427216e42604d84251a1042429b4423051442201064211c3042005a441f18aa41e01ae41d016041c04d641301984111a0e40d092e40c1a6a40b1d8a40904d44080b48407094e4060a3c4050000c00,
  0x288715ce48315b64820a68481002386f000286f2a1844b08a044a2c48449089c44715d044502bc4401a1643f089e43d037843b002383b000383a2a12439089a438089843715ca4342c50431158842a1d9e4282244427224242622b6424228c421064241d00cc41115cc40d22f64090000c00,
  0x288717de48317924820a7e481002387100028712ae644b07f444a2ae444907f044717e044502bc4401a4e43f07f243d037843b002383b000383a2ae243907ee43807ec43717da4342c3043116ac42a21204282224427222242622b64242272421070641d00da41117dc40d22f64090000c00,
  0x288815ce48315b64820a684812a1844b079244a2a16449078e44715d044502c84401a1643f079043d03ba43b000383a2a12439078c438078a43715ca4342a14431158842a1d9e4282244427224242622b642421a2421064241d00cc41115cc40d22f64090000c00,
  0x288915ce48315b64820a684812a1844b079244a2a16449078e44715d044502f24401a1643f079043d044443b000383a2a12439078c438078a43715ca4342a14431158842a1d9e4282244427224242622b642421a2421064241d00cc41115cc40d22f64090000c00,
  0x288a15ce48315b64820a684812a1844b079244a2a16449078e44715d044503164401a1643f079043d04dc43b000383a2a12439078c438078a43715ca4342a14431158842a1d9e4282244427224242622b642421a2421064241d00cc41115cc40d22f64090000c00,
  0x288715ce48315b64820a68481006185c2a1844b079244a2a16449078e44715d044502da4401a1643f079043d03ea43b000383a2a12439078c438078a43715ca4342a14431158842a1d9e4282244427224242622b642421a2421064241d00cc41115cc40d22f64090000c00,
  0x288b15ce48315b64820a684812a1844b079244a2a16449078e44715d044502fe4401a1643f079043d047443b000383a2a12439078c438078a43715ca4342a14431158842a1d9e4282244427224242622b642421a2421064241d00cc41115cc40d22f64090000c00,
  0x288c15ce48315b64820a684812a1844b079244a2a16449078e44715d0445030a4401a1643f079043d04a443b000383a2a12439078c438078a43715ca4342a14431158842a1d9e4282244427224242622b642421a2421064241d00cc41115cc40d22f64090000c00,
  0x288715ce48315b64820a684812a1844b079244a2a16449078e44715d044502da4401a1643f079043d03ea43b000383a2a12439078c438078a43715ca4342a14431158842a1d9e4282244427224242622b642421a2421064241d00cc41115cc40d22f64090000c00,
  0x97448d22aa4640c4c4610212455021045400b44470f9a44503304411d7c42d0d6c42c2a9842b097642a1cfc4282234427223242603764251a484242b6e42303b642200ca4211c18420056c41f18a041e01be41d015a41c03a6413019a411226240903a44080b4c40708dc4060000c00,
  0x98648d22aa4640c4c461021e455021c45400c444710a844503304411d7c42d0dbc42c2b9842b098842a1cfc4282234427223242603e84251a484242b6e423041642200ce4211c18420056e41f18a041e01c241d016a41c0414413019a411226240904124080b5040708de4060000c00,
  0x98648d23204640c4c461021e455021c45400c444710a844503304411d7c42d0dbc42c2b9842b098842a1cfc4282234427223242603e84251a484242b6e423041642200ce4211c18420056e41f18a041e01c241d016a41c0414413019a411226240904124080b5040708de4060000c00,
  0x98648d23444640c4c461021e455021c45400c444710a844503304411d7c42d0dbc42c2b9842b098842a1cfc4282234427223242603e84251a484242b6e423041642200ce4211c18420056e41f18a041e01c241d016a41c0414413019a411226240904124080b5040708de4060000c00,
  0x98648d1ce24640c4c461021e455021c45400c444710a844503304411d7c42d0dbc42c2b9842b098842a1cfc4282234427223242603e84251a484242b6e423041642200ce4211c18420056e41f18a041e01c241d016a41c0414413019a411226240904124080b5040708de4060000c00,
  0x98648d1bce4640c4c461021e455021c45400c444710a844503304411d7c42d0dbc42c2b9842b098842a1cfc4282234427223242603e84251a484242b6e423041642200ce4211c18420056e41f18a041e01c241d016a41c0414413019a411226240904124080b5040708de4060000c00,
  0x98648d1ce64640c4c461021e455021c45400c444710a844503304411d7c42d0dbc42c2b9842b098842a1cfc4282234427223242603e84251a484242b6e423041642200ce4211c18420056e41f18a041e01c241d016a41c0414413019a411226240904124080b5040708de4060000c00,
  0x98648d1ce84640c4c461021e455021c45400c444710a844503304411d7c42d0dbc42c2b9842b098842a1cfc4282234427223242603e84251a484242b6e423041642200ce4211c18420056e41f18a041e01c241d016a41c0414413019a411226240904124080b5040708de4060000c00,
  0x98648d1bd24640c4c461021e455021c45400c444710a844503304411d7c42d0dbc42c2b9842b098842a1cfc4282234427223242603e84251a484242b6e423041642200ce4211c18420056e41f18a041e01c241d016a41c0414413019a411226240904124080b5040708de4060000c00,
  0x98648d1bd44640c4c461021e455021c45400c444710a844503304411d7c42d0dbc42c2b9842b098842a1cfc4282234427223242603e84251a484242b6e423041642200ce4211c18420056e41f18a041e01c241d016a41c0414413019a411226240904124080b5040708de4060000c00,
  0x97445d0e38459020244e032e4411d7c42d0d6c42c2a9842b097642a0c4c4291cfc4282234427223242603764251a484242b6e42303b642200ca4211c18420056c41f18a041e01be41d015a41c03a6413019a411226240903a44080b4c40708dc4060000c00,
  0x1388e29fc45b00284070000c00, 0x1388e29fe45b00284070000c00, 0x1388f00284070000c00,
  0x5a849200198910018890001a83b0000c00,
  0x98648d0c4c461021e455021c45400c444710a844503304411d7c42d0dbc42c2b9842b098842a1cfc4282234427223242603e84251a484242b6e423041642200ce4211c18420056e41f18a041e01c241d016a41c0414413019a411226240904124080b5040708de4060000c00,
  0x39893099045d1d7c42d0dba42c2a9842b098442a0c4c4291cfc4282234427223242603764251a484242b6e42303b642200d44211c18420057241f18a041e015a41c03a6413019a411226240903a44080b4e40708e24060000c00,
  0x97445d0d3a459020244e032e4411d7c42d0d6c42c2a9842b097642a0c4c4291cfc4282234427223242603764251a484242b6e42303b642200ca4211c18420056c41f18a041e01be41d015a41c03a6413019a411226240903a44080b4c40708dc4060000c00,
  0x97445d0d10459020244e032e4411d7c42d0d6c42c2a9842b097642a0c4c4291cfc4282234427223242603764251a484242b6e42303b642200ca4211c18420056c41f18a041e01be41d015a41c03a6413019a411226240903a44080b4c40708dc4060000c00,
  0x97445d0dda459020244e032e4411d7c42d0d6c42c2a9842b097642a0c4c4291cfc4282234427223242603764251a484242b6e42303b642200ca4211c18420056c41f18a041e01be41d015a41c03a6413019a411226240903a44080b4c40708dc4060000c00,
  0x97445d122e459020244e032e4411d7c42d0d6c42c2a9842b097642a0c4c4291cfc4282234427223242603764251a484242b6e42303b642200ca4211c18420056c41f18a041e01be41d015a41c03a6413019a411226240903a44080b4c40708dc4060000c00,
  0x97445d130e459020244e032e4411d7c42d0d6c42c2a9842b097642a0c4c4291cfc4282234427223242603764251a484242b6e42303b642200ca4211c18420056c41f18a041e01be41d015a41c03a6413019a411226240903a44080b4c40708dc4060000c00,
  0xd894000b8900000c00, 0x148950000c00, 0x598950000c00, 0x66e492008489100858900000c00,
  0xc28950000c00, 0xc38950000c00, 0x69c49200f189100f28900000c00, 0x69e49200f189100f28900000c00,
  0x6a849200f889100fc8900000c00,
  0xa4645d201e459020e44e03304411d7c42d130842c2bba42b0a4842a0c4c4291cfc4282234427223242605124251a484242b6e42304a042200fa4211c18420058841f18a041e01c641d016841c049e413019a4112262409049c4080b54407090c4060000c00,
  0x6b84920129891012a8900000c00, 0x6c4492014489101438900000c00, 0x6c8492014889101498900000c00,
  0x6ca4920146891014a8900000c00, 0x6d6492016789101688900000c00, 0x6d8492016789101688900000c00,
  0x6e4492017f89101808900000c00, 0x6ec492018e891018d8900000c00, 0x408950000c00,
  0x1889601f24920000c00, 0xa58950000c00, 0x608950000c00, 0x6089601fa4920000c00, 0x818950000c00,
  0x39897099045d1d7c42d0dba42c2a9842b098442a0c4c4291cfc4282234427223242603764251a484242b6e42303b642200d44211c18420057241f18a041e015a41c03a6413019a411226240903a44080b4e40708e24060000c00,
  0xce8950000c00, 0xf08950000c00,
  0x98645d1a8e459020e44e03304411d7c42d0dbc42c2b9842b098842a0c4c4291cfc4282234427223242603e84251a484242b6e423041642200ce4211c18420056e41f18a041e01c241d016a41c0414413019a411226240904124080b5040708de4060000c00,
  0xa424981d7c42d11e442c2a9842b0a4442a0c4c4291cfc4282234427223242603764251a484242b6e42303b642200f84211c18420058641f18a041e01c441d015a41c03a641305de412019a4111a9440d090a40c1a9240b226240903a44080b5240709084060000c00]

/-- The rows of actions 192 to 255. -/
def rows3 : Array Nat := #[
  0x3186f003086f097445d032e4411d7c42d0d6c42c2a9842b097642a0c4c4291cfc4282234427223242603764251a484242b6e42303b642200ca4211c18420056c41f18a041e01be41d015a41c03a6413019a411226240903a44080b4c40708dc4060000c00,
  0xa7245d201e459020e44e03304411d7c42d130842c2bba42b0a7442a0c4c4291cfc4282234427223242605124251a484242b6e42304a042201024211c18420059a41f18a041e01c641d016841c049e413019a4112262409049c4080b54407093a4060000c00,
  0x98645d201e459020e44e03304411d7c42d0dbc42c2b9842b098842a0c4c4291cfc4282234427223242603e84251a484242b6e423041642200ce4211c18420056e41f18a041e01c241d016a41c0414413019a411226240904124080b5040708de4060000c00,
  0x398990ae445d1d7c42d0c4642c2b9842b0b0242a0c4c4291cfc4282234427223242603e84251a484242b6e423041642201344211c1842005d041f18a041e016a41c0414413019a411226240904124080b4c40709a24060000c00,
  0x3186f098645d03304411d7c42d0dbc42c2b9842b098842a0c4c4291cfc4282234427223242603e84251a484242b6e423041642200ce4211c18420056e41f18a041e01c241d016a41c0414413019a411226240904124080b5040708de4060000c00,
  0x1c89a000285e02bc440002383d002383c000283c037843b002383b000383a0000c00,
  0x1d89a000285e02bc440002383d002383c000283c037843b002383b000383a0000c00,
  0x98648d0c4c461021e455021c45400b84470fc044503304411d7c42d0dbc42c2b9842b098842a1cfc4282234427223242603e84251a484242b6e423041642200ce4211c18420056e41f187841e01c241d016a41c0414413019a411226240904124080b5040708de4060000c00,
  0xd82464099045d021844e03664411d7c42d0dba42c2a9842b098442a0c4c4291cfc4282234427223242603764251a484242b6e42303b642200d44211c18420057241f18a041e01c041d015a41c03a6413019a411226240903a44080b4e40708e24060000c00,
  0x3089b099045d03664411d7c42d0dba42c2a9842b098442a0c4c4291cfc4282234427223242603764251a484242b6e42303b642200d44211c18420057241f18a041e01c041d015a41c03a6413019a411226240903a44080b4e40708e24060000c00,
  0x3989c09f245d1d7c42d0f9442c29b642b09f442a0f924291c444282170427216e42603284251a1042429b4423032642200e24211a74420057841f187041e015c41c03244130198411217440903224080b4840708f04060000c00,
  0x1c89a0023862000285e02da44003ea43b002383b000383a0000c00,
  0x1d89a0023862000285e02da44003ea43b002383b000383a0000c00,
  0xb6a464099045d021844e03664411d7c42d0dba42c2a9842b098442a0c4c4291cfc4282234427223242603764251a484242b6e42303b642200d44211c18420057241f18a041e01c041d015a41c03a6413019a411226240903a44080b4e40708e24060000c00,
  0x758464099045d021844e03664411d7c42d0dba42c2a9842b098442a0c4c4291cfc4282234427223242603764251a484242b6e42303b642200d44211c18420057241f18a041e01c041d015a41c03a6413019a411226240903a44080b4e40708e24060000c00,
  0x170c464099045d021844e03664411d7c42d0dba42c2a9842b098442a0c4c4291cfc4282234427223242603764251a484242b6e42303b642200d44211c18420057241f18a041e01c041d015a41c03a6413019a411226240903a44080b4e40708e24060000c00,
  0x1314464099045d021844e03664411d7c42d0dba42c2a9842b098442a0c4c4291cfc4282234427223242603764251a484242b6e42303b642200d44211c18420057241f18a041e01c041d015a41c03a6413019a411226240903a44080b4e40708e24060000c00,
  0x1840464099045d021844e03664411d7c42d0dba42c2a9842b098442a0c4c4291cfc4282234427223242603764251a484242b6e42303b642200d44211c18420057241f18a041e01c041d015a41c03a6413019a411226240903a44080b4e40708e24060000c00,
  0x1a42464099045d021844e03664411d7c42d0dba42c2a9842b098442a0c4c4291cfc4282234427223242603764251a484242b6e42303b642200d44211c18420057241f18a041e01c041d015a41c03a6413019a411226240903a44080b4e40708e24060000c00,
  0x3989c0a8645d1d7c42d136e42c2bd842b0a9042a0f924291c444282170427216e42604d84251a1042429b4423051442201064211a74420059c41f187041e016041c04d64130198411217440904d44080b48407094e4060000c00,
  0x3989c0a2645d1d7c42d11d042c2c2242b0a3442a0f924291c444282170427216e42603b84251a104242bb6423051842200ee4211a74420058041f187041e015e41c050e41301984112174409050c4080b4840708fe4060000c00,
  0x3989c0a8c45d1d7c42d137642c2baa42b0a9242a0c4c4291cfc4282234427223242605104251a484242b6e4230470422010e4211c1842005a041f18a041e016441c046e413019a4112262409046c4080b4e40709524060000c00,
  0x3989c0a9a45d1d7c42d13c042c2bba42b0aac42a0c4c4291cfc4282234427223242605124251a484242b6e42304a042201224211c1842005b841f18a041e016841c049e413019a4112262409049c4080b4e40709684060000c00,
  0x3989c0a9e45d1d7c42d13c242c2bca42b0ab042a0c4c4291cfc4282234427223242604424251a484242bc642304d042201264211c1842005bc41f18a041e016641c04ce413019a411226240904cc4080b4c407096c4060000c00,
  0x3989c0a5845d1d7c42d12ce42c2c0a42b0a6442a0c4c4291cfc4282234427223242604da4251a484242ba6423050842201164211c18420058a41f18a041e016241c0506413019a411226240905044080b4e40709264060000c00,
  0x98649d0c4c461021e45500b64470fbe44503304411d7c42d0dbc42c2b9842b098842a1cfc4282234427223242603e84251a484242b6e423041642200ce4211c18420056e41f18a041e01c241d016a41c0414413019a411226240904124080b5040708de4060000c00,
  0x99045d1db244f03e24411d7c42d0dba42c2a9842b098442a0c4c4291cfc4282234427223242603764251a484242b6e42303b642200d44211c18420057241f18a041e01c041d015a41c03a6413019a411226240903a44080b4e40708e24060000c00,
  0x97445d03304411d7c42d0d6c42c2a9842b097642a0c4c4291cfc4282234427223242603764251a484242b6e42303b642200ca4211c18420056c41f18a041e01be41d015a41c03a6413019a411226240903a44080b4c40708dc4060000c00,
  0x98649d0c4c461021e45500be447100444503304411d7c42d0dbc42c2b9842b098842a1cfc4282234427223242603e84251a484242b6e423041642200ce4211c18420056e41f18a041e01c241d016a41c0414413019a411226240904124080b5040708de4060000c00,
  0xf9246109f245d0e6c4451d7c42d0f9442c29b642b095c42a1c444282170427216e42603284251a1042429b4423032642200e24211a74420057841f187041e01ae41d015c41c03244130198411217440903224080b4840708f04060000c00,
  0x98645d03304411d7c42d0dbc42c2b9842b098842a0c4c4291cfc4282234427223242603e84251a484242b6e423041642200ce4211c18420056e41f18a041e01c241d016a41c0414413019a411226240904124080b5040708de4060000c00,
  0xc4c461099045d0b944451d7c42d0dba42c2a9842b091a42a1cfc4282234427223242603764251a484242b6e42303b642200d44211c18420057241f18a041e01c041d015a41c03a6413019a411226240903a44080b4e40708e24060000c00,
  0x99045d202e44f03e24411d7c42d0dba42c2a9842b098442a0c4c4291cfc4282234427223242603764251a484242b6e42303b642200d44211c18420057241f18a041e01c041d015a41c03a6413019a411226240903a44080b4e40708e24060000c00,
  0xc4c4610ae445d10e24451d7c42d0c4642c2b9842b0a1642a1cfc4282234427223242603e84251a484242b6e423041642201344211c1842005d041f18a041e01be41d016a41c0414413019a411226240904124080b4c40709a24060000c00,
  0xc4c461099045d10e24451d7c42d0dba42c2a9842b096442a1cfc4282234427223242603764251a484242b6e42303b642200d44211c18420057241f18a041e01c041d015a41c03a6413019a411226240903a44080b4e40708e24060000c00,
  0xc4c461099045d123a4451d7c42d0dba42c2a9842b099442a1cfc4282234427223242603764251a484242b6e42303b642200d44211c18420057241f18a041e01c041d015a41c03a6413019a411226240903a44080b4e40708e24060000c00,
  0xc4c4610ae445d123a4451d7c42d0c4642c2b9842b09e042a1cfc4282234427223242603e84251a484242b6e423041642201344211c1842005d041f18a041e01be41d016a41c0414413019a411226240904124080b4c40709a24060000c00,
  0xc4c461099045d0f364451d7c42d0dba42c2a9842b094042a1cfc4282234427223242603764251a484242b6e42303b642200d44211c18420057241f18a041e01c041d015a41c03a6413019a411226240903a44080b4e40708e24060000c00,
  0xf924610a8645d0e6c4451d7c42d136e42c2bd842b099a42a1c444282170427216e42604d84251a1042429b4423051442201064211a74420059c41f187041e01ae41d016041c04d64130198411217440904d44080b48407094e4060000c00,
  0xc4c4610ae445d0b944451d7c42d0c4642c2b9842b0a2442a1cfc4282234427223242603e84251a484242b6e423041642201344211c1842005d041f18a041e01be41d016a41c0414413019a411226240904124080b4c40709a24060000c00,
  0xf924610a2645d0e6c4451d7c42d11d042c2c2242b096642a1c444282170427216e42603b84251a104242bb6423051842200ee4211a74420058041f187041e01ae41d015e41c050e41301984112174409050c4080b4840708fe4060000c00,
  0xc4c4610a8c45d0b944451d7c42d137642c2baa42b09a042a1cfc4282234427223242605104251a484242b6e4230470422010e4211c1842005a041f18a041e01c041d016441c046e413019a4112262409046c4080b4e40709524060000c00,
  0xc4c4610a9a45d0b944451d7c42d13c042c2bba42b09e242a1cfc4282234427223242605124251a484242b6e42304a042201224211c1842005b841f18a041e01c041d016841c049e413019a4112262409049c4080b4e40709684060000c00,
  0xc4c4610a9e45d0b944451d7c42d13c242c2bca42b09e442a1cfc4282234427223242604424251a484242bc642304d042201264211c1842005bc41f18a041e01be41d016641c04ce413019a411226240904cc4080b4c407096c4060000c00,
  0xc4c4610a5845d0b944451d7c42d12ce42c2c0a42b09ae42a1cfc4282234427223242604da4251a484242ba6423050842201164211c18420058a41f18a041e01c041d016241c0506413019a411226240905044080b4e40709264060000c00,
  0x61a49e09f245d1d7c42d0f9442c29b642b09f442a0f924291c444282170427216e42603284251a1042429b4423032642200e24211a74420057841f187041e01ae41d015c41c03244130198411217440903224080b4840708f04060000c00,
  0x98649f0c4c46100b64470fbe44503304411d7c42d0dbc42c2b9842b098842a1cfc4282234427223242603e84251a484242b6e423041642200ce4211c18420056e41f18a041e01c241d016a41c0414413019a411226240904124080b5040708de4060000c00,
  0x99045d1d7c42d0dba42c2a9842b098442a0c4c4291cfc4282234427223242603764251a484242b6e42303b642200d44211c18420057241f18a041e01c041d015a41c03a641305de412019a411226240903a44080b4e40708e24060000c00,
  0x98649f0c4c46100bc447100044503304411d7c42d0dbc42c2b9842b098842a1cfc4282234427223242603e84251a484242b6e423041642200ce4211c18420056e41f18a041e01c241d016a41c0414413019a411226240904124080b5040708de4060000c00,
  0x98649f0c4c46100c0447100644503304411d7c42d0dbc42c2b9842b098842a1cfc4282234427223242603e84251a484242b6e423041642200ce4211c18420056e41f18a041e01c241d016a41c0414413019a411226240904124080b5040708de4060000c00,
  0x98649f0c4c46100c2447105044503304411d7c42d0dbc42c2b9842b098842a1cfc4282234427223242603e84251a484242b6e423041642200ce4211c18420056e41f18a041e01c241d016a41c0414413019a411226240904124080b5040708de4060000c00,
  0xaa64981d7c42d13be42c2b9842b0aa842a0c4c4291cfc4282234427223242603e84251a484242b6e4230416422011c4211c1842005c241f18a041e01c441d016a41c0414413019a4111c7c40d097e40c1c7a40b226240904124080b5240709724060000c00,
  0x50464099045d1d7c42d0dba42c2a9842b098442a0c4c4291cfc4282234427223242603764251a484242b6e42303b642200d44211c18420057241f18a041e01c041d015a41c03a6413019a411226240903a44080b4e40708e24060000c00,
  0x54464099045d1d7c42d0dba42c2a9842b098442a0c4c4291cfc4282234427223242603764251a484242b6e42303b642200d44211c18420057241f18a041e01c041d015a41c03a6413019a411226240903a44080b4e40708e24060000c00,
  0x56464099045d1d7c42d0dba42c2a9842b098442a0c4c4291cfc4282234427223242603764251a484242b6e42303b642200d44211c18420057241f18a041e01c041d015a41c03a6413019a411226240903a44080b4e40708e24060000c00,
  0x5c464099045d1d7c42d0dba42c2a9842b098442a0c4c4291cfc4282234427223242603764251a484242b6e42303b642200d44211c18420057241f18a041e01c041d015a41c03a6413019a411226240903a44080b4e40708e24060000c00,
  0x70464099045d1d7c42d0dba42c2a9842b098442a0c4c4291cfc4282234427223242603764251a484242b6e42303b642200d44211c18420057241f18a041e01c041d015a41c03a6413019a411226240903a44080b4e40708e24060000c00,
  0x74464099045d1d7c42d0dba42c2a9842b098442a0c4c4291cfc4282234427223242603764251a484242b6e42303b642200d44211c18420057241f18a041e01c041d015a41c03a6413019a411226240903a44080b4e40708e24060000c00,
  0x76464099045d1d7c42d0dba42c2a9842b098442a0c4c4291cfc4282234427223242603764251a484242b6e42303b642200d44211c18420057241f18a041e01c041d015a41c03a6413019a411226240903a44080b4e40708e24060000c00,
  0x7c464099045d1d7c42d0dba42c2a9842b098442a0c4c4291cfc4282234427223242603764251a484242b6e42303b642200d44211c18420057241f18a041e01c041d015a41c03a6413019a411226240903a44080b4e40708e24060000c00,
  0x9c464099045d1d7c42d0dba42c2a9842b098442a0c4c4291cfc4282234427223242603764251a484242b6e42303b642200d44211c18420057241f18a041e01c041d015a41c03a6413019a411226240903a44080b4e40708e24060000c00,
  0xa0464099045d1d7c42d0dba42c2a9842b098442a0c4c4291cfc4282234427223242603764251a484242b6e42303b642200d44211c18420057241f18a041e01c041d015a41c03a6413019a411226240903a44080b4e40708e24060000c00,
  0xa2464099045d1d7c42d0dba42c2a9842b098442a0c4c4291cfc4282234427223242603764251a484242b6e42303b642200d44211c18420057241f18a041e01c041d015a41c03a6413019a411226240903a44080b4e40708e24060000c00,
  0xa8464099045d1d7c42d0dba42c2a9842b098442a0c4c4291cfc4282234427223242603764251a484242b6e42303b642200d44211c18420057241f18a041e01c041d015a41c03a6413019a411226240903a44080b4e40708e24060000c00]

/-- The rows of actions 256 to 319. -/
def rows4 : Array Nat := #[
  0x9f245d1d7c42d0f9442c29b642b09f442a0f924291c444282170427216e42603284251a1042429b4423032642200e24211a74420057841f187041e01ae41d015c41c03244130198411217440903224080b4840708f04060000c00,
  0x9f245d1d7c42d0f9442c29b642b09f442a0f924291c444282170427216e42603284251a1042429b4423032642200e24211a74420057841f187041e01ae41d015c41c0324413019841121744090322408000c40708f04060000c00,
  0x99045d1d7c42d0dba42c2a9842b098442a0c4c4291cfc4282234427223242603764251a484242b6e42303b642200d44211c18420057241f18a041e01c041d015a41c03a6413019a411226240903a44080b4e40708e24060000c00,
  0xa5845d1d7c42d12ce42c2c0a42b0a6442a0c4c4291cfc4282234427223242604da4251a484242ba6423050842201164211c18420058a41f18a041e01c041d016241c0506413019a411226240905044080b4e40709264060000c00,
  0xa6a45d1d7c42d13c042c2bba42b0a6c42a0c4c4291cfc4282234427223242605124251a484242b6e42304a042200fe4211c18420059641f18a041e01c041d016841c049e413019a4112262409049c4080b4e40709324060000c00,
  0xa6e45d1d7c42d13c042c2bba42b0a7042a0c4c4291cfc4282234427223242605124251a484242b6e42304a042201004211c18420059841f18a041e01c041d016841c049e413019a4112262409049c4080b4e40709344060000c00,
  0x99045d1d7c42d0dba42c2a9842b098442a0c4c4291cfc4282234427223242603764251a484242b6e42303b642200d44211c18420057241f18a041e01c041d015a41c03a6413019a411226240903a4408000e40708e24060000c00,
  0xa8645d1d7c42d136e42c2bd842b0a9042a0f924291c444282170427216e42604d84251a1042429b4423051442201064211a74420059c41f187041e01ae41d016041c04d64130198411217440904d4408000c407094e4060000c00,
  0xae445d1d7c42d0c4642c2b9842b0b0242a0c4c4291cfc4282234427223242603e84251a484242b6e423041642201344211c1842005d041f18a041e01be41d016a41c0414413019a41122624090412408001040709a24060000c00,
  0xa2645d1d7c42d11d042c2c2242b0a3442a0f924291c444282170427216e42603b84251a104242bb6423051842200ee4211a74420058041f187041e01ae41d015e41c050e41301984112174409050c408000c40708fe4060000c00,
  0xa8c45d1d7c42d137642c2baa42b0a9242a0c4c4291cfc4282234427223242605104251a484242b6e4230470422010e4211c1842005a041f18a041e01c041d016441c046e413019a4112262409046c408000e40709524060000c00,
  0xa9a45d1d7c42d13c042c2bba42b0aac42a0c4c4291cfc4282234427223242605124251a484242b6e42304a042201224211c1842005b841f18a041e01c041d016841c049e413019a4112262409049c408000e40709684060000c00,
  0xa9e45d1d7c42d13c242c2bca42b0ab042a0c4c4291cfc4282234427223242604424251a484242bc642304d042201264211c1842005bc41f18a041e01be41d016641c04ce413019a411226240904cc4080010407096c4060000c00,
  0xa5845d1d7c42d12ce42c2c0a42b0a6442a0c4c4291cfc4282234427223242604da4251a484242ba6423050842201164211c18420058a41f18a041e01c041d016241c0506413019a41122624090504408000e40709264060000c00,
  0xab445d1d7c42d13c442c2b9842b0ab642a0c4c4291cfc4282234427223242603e84251a484242b6e4230416422012a4211c1842005c441f18a041e01be41d016a41c0414413019a411226240904124080b4c40709784060000c00,
  0x9fa45d1d7c42d11de42c2a9842b0a3e42a0c4c4291cfc4282234427223242603764251a484242b6e42303b642200f64211c18420057a41f18a041e01be41d015a41c03a6413019a411226240903a44080b4c40708f24060000c00,
  0x98a45d1d7c42d0dbe42c2b9842b098c42a0c4c4291cfc4282234427223242603e84251a484242b6e423041642200d04211c18420057041f18a041e01c241d016a41c0414413019a411226240904124080b5040708e04060000c00,
  0xa8c45d1d7c42d137642c2baa42b0a9242a0c4c4291cfc4282234427223242605104251a484242b6e4230470422010e4211c1842005a041f18a041e01c041d016441c046e413019a4112262409046c4080b4e40709524060000c00,
  0xa9a45d1d7c42d13c042c2bba42b0aac42a0c4c4291cfc4282234427223242605124251a484242b6e42304a042201224211c1842005b841f18a041e01c041d016841c049e413019a4112262409049c4080b4e40709684060000c00,
  0x9f245d0f924510e6e4501d7c42d0f9442c29b642b09f442a1c444282170427216e42603284251a1042429b4423032642200e24211a74420057841f187041e01ae41d015c41c03244130198411217440903224080b4840708f04060000c00,
  0xa8645d1d7c42d136e42c2bd842b0a9042a0f924291c444282170427216e42604d84251a1042429b4423051442201064211a74420059c41f187041e01ae41d016041c04d64130198411217440904d44080b48407094e4060000c00,
  0x99045d0c4c4510b984501d7c42d0dba42c2a9842b098442a1cfc4282234427223242603764251a484242b6e42303b642200d44211c18420057241f18a041e01c041d015a41c03a6413019a411226240903a44080b4e40708e24060000c00,
  0xa2645d1d7c42d11d042c2c2242b0a3442a0f924291c444282170427216e42603b84251a104242bb6423051842200ee4211a74420058041f187041e01ae41d015e41c050e41301984112174409050c4080b4840708fe4060000c00,
  0xa9e45d1d7c42d13c242c2bca42b0ab042a0c4c4291cfc4282234427223242604424251a484242bc642304d042201264211c1842005bc41f18a041e01be41d016641c04ce413019a411226240904cc4080b4c407096c4060000c00,
  0xae445d0c4c45110e44501d7c42d0c4642c2b9842b0b0242a1cfc4282234427223242603e84251a484242b6e423041642201344211c1842005d041f18a041e01be41d016a41c0414413019a411226240904124080b4c40709a24060000c00,
  0x99045d0c4c45110e44501d7c42d0dba42c2a9842b098442a1cfc4282234427223242603764251a484242b6e42303b642200d44211c18420057241f18a041e01c041d015a41c03a6413019a411226240903a44080b4e40708e24060000c00,
  0x99045d0c4c451123c4501d7c42d0dba42c2a9842b098442a1cfc4282234427223242603764251a484242b6e42303b642200d44211c18420057241f18a041e01c041d015a41c03a6413019a411226240903a44080b4e40708e24060000c00,
  0xae445d0c4c451123c4501d7c42d0c4642c2b9842b0b0242a1cfc4282234427223242603e84251a484242b6e423041642201344211c1842005d041f18a041e01be41d016a41c0414413019a411226240904124080b4c40709a24060000c00,
  0x99045d0c4c4510f384501d7c42d0dba42c2a9842b098442a1cfc4282234427223242603764251a484242b6e42303b642200d44211c18420057241f18a041e01c041d015a41c03a6413019a411226240903a44080b4e40708e24060000c00,
  0xabe45d1d7c42d13f442c2b9842b0ac042a0c4c4291cfc4282234427223242603e84251a484242b6e4230416422012e4211c1842005cc41f18a041e01be41d016a41c0414413019a411226240904124080b4c40709964060000c00,
  0xa8645d0f924510e6e4501d7c42d136e42c2bd842b0a9042a1c444282170427216e42604d84251a1042429b4423051442201064211a74420059c41f187041e01ae41d016041c04d64130198411217440904d44080b48407094e4060000c00,
  0xae445d1d7c42d0c4642c2b9842b0b0242a0c4c4291cfc4282234427223242603e84251a484242b6e423041642201344211c1842005d041f18a041e01be41d016a41c0414413019a411226240904124080b4c40709a24060000c00,
  0xae445d0c4c4510b984501d7c42d0c4642c2b9842b0b0242a1cfc4282234427223242603e84251a484242b6e423041642201344211c1842005d041f18a041e01be41d016a41c0414413019a411226240904124080b4c40709a24060000c00,
  0xae045d1d7c42d13fa42c2b9842b0ae242a0c4c4291cfc4282234427223242603e84251a484242b6e423041642201324211c1842005ce41f18a041e01be41d016a41c0414413019a411226240904124080b4c407099e4060000c00,
  0xa2645d0f924510e6e4501d7c42d11d042c2c2242b0a3442a1c444282170427216e42603b84251a104242bb6423051842200ee4211a74420058041f187041e01ae41d015e41c050e41301984112174409050c4080b4840708fe4060000c00,
  0xa8c45d0c4c4510b984501d7c42d137642c2baa42b0a9242a1cfc4282234427223242605104251a484242b6e4230470422010e4211c1842005a041f18a041e01c041d016441c046e413019a4112262409046c4080b4e40709524060000c00,
  0xae645d1d7c42d13fc42c2b9842b0ae842a0c4c4291cfc4282234427223242603e84251a484242b6e423041642201364211c1842005d241f18a041e01be41d016a41c0414413019a411226240904124080b4c40709a44060000c00,
  0xa9a45d0c4c4510b984501d7c42d13c042c2bba42b0aac42a1cfc4282234427223242605124251a484242b6e42304a042201224211c1842005b841f18a041e01c041d016841c049e413019a4112262409049c4080b4e40709684060000c00,
  0xaea45d1d7c42d13fe42c2b9842b0aec42a0c4c4291cfc4282234427223242603e84251a484242b6e423041642201384211c1842005d441f18a041e01be41d016a41c0414413019a411226240904124080b4c40709a64060000c00,
  0xa9e45d0c4c4510b984501d7c42d13c242c2bca42b0ab042a1cfc4282234427223242604424251a484242bc642304d042201264211c1842005bc41f18a041e01be41d016641c04ce413019a411226240904cc4080b4c407096c4060000c00,
  0xaee45d1d7c42d140042c2b9842b0af042a0c4c4291cfc4282234427223242603e84251a484242b6e4230416422013a4211c1842005d641f18a041e01be41d016a41c0414413019a411226240904124080b4c40709a84060000c00,
  0xa5845d0c4c4510b984501d7c42d12ce42c2c0a42b0a6442a1cfc4282234427223242604da4251a484242ba6423050842201164211c18420058a41f18a041e01c041d016241c0506413019a411226240905044080b4e40709264060000c00,
  0xafa45d1d7c42d140442c2b9842b0afc42a0c4c4291cfc4282234427223242603e84251a484242b6e4230416422013e4211c1842005da41f18a041e01be41d016a41c0414413019a411226240904124080b4c40709b04060000c00,
  0xaf245d1d7c42d140242c2b9842b0af442a0c4c4291cfc4282234427223242603e84251a484242b6e4230416422013c4211c1842005d841f18a041e01be41d016a41c0414413019a411226240904124080b4c40709aa4060000c00,
  0xafe45d1d7c42d140642c2b9842b0b0042a0c4c4291cfc4282234427223242603e84251a484242b6e423041642201404211c1842005dc41f18a041e01be41d016a41c0414413019a411226240904124080b4c40709b24060000c00,
  0x1724a300158a200028a200028a129c44a0004045c001585c0e3c44f0292440001583d035443b000383a229a43429bc43329ba43229b84311c4c430147642f1d7c42d275842029ca41f29c841e1a0e40d1a7040c1a6a40b29c640917c64071c4a406229c4050000c00,
  0x1724a300158a200028a200028a129c44a0004045c001585c0d1244f0292440001583d035443b000383a229a43429bc43329ba43229b84311c4c430147642f1d7c42d275842029ca41f29c841e1a0e40d1a7040c1a6a40b29c640917c64071c4a406229c4050000c00,
  0x1724a300158a200028a200028a129c44a0004045c001585c0d3c44f0292440001583d035443b000383a229a43429bc43329ba43229b84311c4c430147642f1d7c42d275842029ca41f29c841e1a0e40d1a7040c1a6a40b29c640917c64071c4a406229c4050000c00,
  0x1c5c4a6218a4a500028a4004045c001585c14204530e3c44f0292440001583d035843b000383a14d64340002834218c42a2244427224242622b6424001582400028241a80420035641d000281d019c411001581100028110000c00,
  0x1c5c4a6218a4a500028a4004045c001585c14204530d1244f0292440001583d035843b000383a14d64340002834218c42a2244427224242622b6424001582400028241a80420035641d000281d019c411001581100028110000c00,
  0x1c5c4a6218a4a500028a4004045c001585c14204530d3c44f0292440001583d035843b000383a14d64340002834218c42a2244427224242622b6424001582400028241a80420035641d000281d019c411001581100028110000c00,
  0x27704a800028a700158a200028a2004045c001585c0e3c44f0292440001583d035843b000383a29bc43329ba43229b84311a82430147642f1d7c42d275842029ca41f29c841e1a0e40d1a7040c1a6a40b29c64091c4a40629ea4050000c00,
  0x27704a800028a700158a200028a2004045c001585c0d1244f0292440001583d035843b000383a29bc43329ba43229b84311a82430147642f1d7c42d275842029ca41f29c841e1a0e40d1a7040c1a6a40b29c64091c4a40629ea4050000c00,
  0x27704a800028a700158a200028a2004045c001585c0d3c44f0292440001583d035843b000383a29bc43329ba43229b84311a82430147642f1d7c42d275842029ca41f29c841e1a0e40d1a7040c1a6a40b29c64091c4a40629ea4050000c00,
  0x28a901724a329c44a0004045c0292440032a43b000383a229a43429bc43329ba43229b84311c4c430147642f1d7c42d275842029ca41f29c841e1a0e40d1a7040c1a6a40b29c640917c64071c4a406229c4050000c00,
  0x28a9017a4a329c44a0006045c0292440032a43b000383a229a43429bc43329ba43229b84311d70430149e42f1d7c42d275842029ca41f29c841e1a0e40d1a7040c1a6a40b29c640917c64071d6e406229c4050000c00,
  0x28a901844a329c44a0009045c0292440032a43b000383a229a43429bc43329ba43229b84311c4c430147642f1d7c42d275842029ca41f29c841e1a0e40d1a7040c1a6a40b29c640917c64071c4a406229c4050000c00,
  0x1c5a4aa1c5c4a600028a400158a200028a2004045c001585c14a4455143a4530e3c44f14244470292440001583d035843b000383a14d6434000283422444272242426142241f035641d000281d0000c00,
  0x1c5a4aa1c5c4a600028a400158a200028a2004045c001585c14a4455143a4530d1244f14244470292440001583d035843b000383a14d6434000283422444272242426142241f035641d000281d0000c00,
  0x1c5a4aa1c5c4a600028a400158a200028a2004045c001585c14a4455143a4530d3c44f14244470292440001583d035843b000383a14d6434000283422444272242426142241f035641d000281d0000c00,
  0x1c5a4ab1c5c4a600028a400158a200028a2004045c001585c143a4530e3c44f0292440001583d035843b000383a14d6434000283422444272242426142241f035641d000281d0000c00,
  0x1c5a4ad00028ac1c5c4a600158a200028a2004045c001585c0e3c44f0292440001583d035843b000383a22444272242426035641d000281d0000c00,
  0x1c5a4ab1c5c4a600028a400158a200028a2004045c001585c143a4530d1244f0292440001583d035843b000383a14d6434000283422444272242426142241f035641d000281d0000c00,
  0x1c5a4ad00028ac1c5c4a600158a200028a2004045c001585c0d1244f0292440001583d035843b000383a22444272242426035641d000281d0000c00]

/-- The rows of actions 320 to 383. -/
def rows5 : Array Nat := #[
  0x1c5a4ab1c5c4a600028a400158a200028a2004045c001585c143a4530d3c44f0292440001583d035843b000383a14d6434000283422444272242426142241f035641d000281d0000c00,
  0x1c5a4ad00028ac1c5c4a600158a200028a2004045c001585c0d3c44f0292440001583d035843b000383a22444272242426035641d000281d0000c00,
  0x28ae27704a8004045c0292440032c43b000383a29bc43329ba43229b84311a82430147642f1d7c42d275842029ca41f29c841e1a0e40d1a7040c1a6a40b29c64091c4a40629ea4050000c00,
  0x408af0000c00, 0xa58af0000c00,
  0x28ae27704a8006045c0292440032c43b000383a29bc43329ba43229b84311c36430149e42f1d7c42d275842029ca41f29c841e1a0e40d1a7040c1a6a40b29c64091d6e40629ea4050000c00,
  0x28ae27704a8009045c0292440032c43b000383a29bc43329ba43229b84311a82430147642f1d7c42d275842029ca41f29c841e1a0e40d1a7040c1a6a40b29c64091c4a40629ea4050000c00,
  0x8e8b00000c00, 0x1038b00000c00, 0x14b8b00000c00, 0x1828b00000c00, 0x19e8b00000c00,
  0x1c8b100028a400158a200028a2004045c001585c0e3c44f0292440001583d035843b000383a0000c00,
  0x1d8b100028a400158a200028a2004045c001585c0e3c44f0292440001583d035843b000383a0000c00,
  0x28b227704a802c844003ba43b000383a29bc43329ba43229b84311a82430147642f1d7c42d275842029ca41f29c841e1a0e40d1a7040c1a6a40b29c64091c4a40629ea4050000c00,
  0x1c8b100028a400158a200028a2004045c001585c0d1244f0292440001583d035843b000383a0000c00,
  0x1d8b100028a400158a200028a2004045c001585c0d1244f0292440001583d035843b000383a0000c00,
  0x28b228a44a802c844003ba43b000383a2b724332b704322bda4311be0430148e42f1d7c42d29984202c4041f2b7441e1a6040d1c1640c1c1440b2c3e4091cfe4062bea4050000c00,
  0x1c8b100028a400158a200028a2004045c001585c0d3c44f0292440001583d035843b000383a0000c00,
  0x1d8b100028a400158a200028a2004045c001585c0d3c44f0292440001583d035843b000383a0000c00,
  0x28b227704a802c844003ba43b000383a29bc43329ba43229b84311c36430149e42f1d7c42d275842029ca41f29c841e1a0e40d1a7040c1a6a40b29c64091d6e40629ea4050000c00,
  0x2aa24b400028b30023866000286602bc440002383d037843b002383b000383a2aa442a22b642400028241c1a420019c41100028110000c00,
  0x2b9e4b400028b3002386702da44003ea43b002383b000383a2ba042a22b642400028241c1a420019c41100028110000c00,
  0x2b9e4b400028b3006186702da44003ea43b000383a2ba042a22b642400028241c1a420019c41100028110000c00,
  0x28b52aa24b402bc440037843b000383a2aa442a22b642400028241c1a420019c41100028110000c00,
  0x28b52aa24b402bc44003ea43b000383a2aa442a22b642400028241c1a420019c41100028110000c00,
  0x29dc4b400028a7004045c0292440032c43b000383a29de42a22b642400028241a80420019c41100028110000c00,
  0x28b629dc4b40292440032c43b000383a29de42a22b642400028241a8a420019c41100028110000c00,
  0x2aa24b400028b3006186b000286b006185c02bc440037843b000383a2aa442a22b642400028241c1a420019c41100028110000c00,
  0x28b629dc4b4029244003ea43b000383a29de42a22b642400028241a8a420019c41100028110000c00,
  0x29dc4b400028a7006045c0292440032c43b000383a29de42a22b642400028241c34420019c41100028110000c00,
  0x28b72c284b402e6440041843b000383a2c2a42a22b642400028241a8a420019c41100028110000c00,
  0x28b72c284b402e644003ea43b000383a2c2a42a22b642400028241a8a420019c41100028110000c00,
  0x29dc4b400028a7009045c0292440032c43b000383a29de42a22b642400028241c34420019c41100028110000c00,
  0x28b82aa24b402ac46e02ac46d000286d02bc440037843b000383a2aa442a22b642400028241c1a420019c41100028110000c00,
  0x2bbe4b400028b307a845c00238590002859002384e02fe440047443b002383b000383a2bc042a22b642400028241c1a420019c41100028110000c00,
  0x28b92c104b4031644004dc43b000383a2c1242a22b642400028241c1a420019c41100028110000c00,
  0x28b92c104b4031644003ea43b000383a2c1242a22b642400028241c1a420019c41100028110000c00,
  0x27984bb22e84ba002a8900000c00,
  0x28bc2be24b402c844003ba43b000383a2be442a22b642400028241a80420019c41100028110000c00,
  0x608bd05aa4920000c00, 0x188bd05a84920000c00,
  0x28be2bbe4b407a845c02fe440047443b000383a2bc042a22b642400028241c1a420019c41100028110000c00,
  0x28be2bbe4b407ba45c02fe440047443b000383a2bc042a22b642400028241c1a420019c41100028110000c00,
  0x2bbe4b400028b300238590002859002384e02fe440047443b002383b000383a2bc042a22b642400028241c1a420019c41100028110000c00,
  0x28bc2be24b402c844003ba43b000383a2be442a22b642400028241a8a420019c41100028110000c00,
  0x28bc2be24b402c844003ea43b000383a2be442a22b642400028241a8a420019c41100028110000c00,
  0x28bf2bae4b402f2440044443b000383a2bb042a22b642400028241c1a420019c41100028110000c00,
  0x28bf2bae4b402f244003ea43b000383a2bb042a22b642400028241c1a420019c41100028110000c00,
  0x28bc2be24b402c844003ba43b000383a2be442a22b642400028241c34420019c41100028110000c00,
  0x28bc2be24b402c844003ba43b000383a2be442a22b642400028241c42420019c41100028110000c00,
  0x608bd0000c00, 0xce8bd0000c00, 0x818c00000c00, 0xf08c00000c00, 0x608c00000c00,
  0x188c105b04920000c00, 0xce8c00000c00, 0x608c105b44920000c00,
  0x28be2bbe4b402fe440047443b000383a2bc042a22b642400028241c1a420019c41100028110000c00,
  0x28be2bbe4b402fe44003ea43b000383a2bc042a22b642400028241c1a420019c41100028110000c00,
  0x28c22bce4b4030a44004a443b000383a2bd042a22b642400028241c1a420019c41100028110000c00,
  0x28c22bce4b4030a44003ea43b000383a2bd042a22b642400028241c1a420019c41100028110000c00,
  0x2b9e4b400028b3006185c02da44003ea43b000383a2ba042a22b642400028241c1a420019c41100028110000c00]

/-- The rows of actions 384 to 447. -/
def rows6 : Array Nat := #[
  0x28c32b9e4b402ac46e02ac46d000286d02da44003ea43b000383a2ba042a22b642400028241c1a420019c41100028110000c00,
  0x2b9e4b400028b302da440036243b000383a2ba042a22b642400028241c1a420019c41100028110000c00,
  0x27984bb00778900000c00, 0x138c42adc45b00244070000c00, 0x138c42ade45b00244070000c00,
  0x2b9e4b400028b302da440039c43b000383a2ba042a22b642400028241c1a420019c41100028110000c00,
  0x2b9e4b400028b302da440040a43b000383a2ba042a22b642400028241c1a420019c41100028110000c00,
  0x2b9e4b400028b302da44003ea43b000383a2ba042a22b642400028241c1a420019c41100028110000c00,
  0x2b9e4b400028b302da440046443b000383a2ba042a22b642400028241c1a420019c41100028110000c00,
  0x2b9e4b400028b302da440049443b000383a2ba042a22b642400028241c1a420019c41100028110000c00,
  0x2b9e4b400028b302da44004c443b000383a2ba042a22b642400028241c1a420019c41100028110000c00,
  0x2b9e4b400028b302da44003de43b000383a2ba042a22b642400028241c1a420019c41100028110000c00,
  0x2b9e4b400028b302da44004fc43b000383a2ba042a22b642400028241c1a420019c41100028110000c00,
  0x2b9e4b400028b302da440043a43b000383a2ba042a22b642400028241c1a420019c41100028110000c00,
  0x58c50000c00, 0x4e4c7006e8c60000c00, 0x66e49200858900000c00, 0xe58c8069a49e0000c00,
  0xe68c90000c00, 0x69c49200f28900000c00, 0x69e49200f28900000c00, 0x6a849200fc8900000c00,
  0x6b8492012a8900000c00, 0x6c449201438900000c00, 0x6c849201498900000c00, 0x6ca492014a8900000c00,
  0x6d649201688900000c00, 0x6d849201688900000c00, 0x6e449201808900000c00, 0x6ec492018d8900000c00,
  0x1958c90000c00, 0x1aa8c90000c00, 0x138c400244070000c00, 0xc28ca0000c00, 0xc38ca0000c00,
  0x728cb0000c00, 0xdf8cb0000c00, 0x98900000c00, 0xb8900000c00, 0x128900000c00, 0x2b8900000c00,
  0x2c8900000c00, 0x2d8900000c00, 0x2e8900000c00, 0x468900000c00, 0x478900000c00, 0x4a8900000c00,
  0x528900000c00, 0x578900000c00, 0x698900000c00, 0x6a8900000c00, 0x6c8900000c00, 0x6d8900000c00,
  0x6f8900000c00, 0x708900000c00, 0x768900000c00, 0x778900000c00, 0x788900000c00, 0x798900000c00,
  0x7a8900000c00, 0x7b8900000c00,
  0x15ce48315b64820a6848115da4592a1844b08a044a2c48449089c44715d044501464411a1643f089e43d2a12439089a438089843715ca4342c50431174e42a1d9e4282244427224242622b6424228c421064241d00cc41115cc40d22f64090000c00,
  0xae8900000c00, 0xaf8900000c00]

/-- The rows of actions 448 to 511. -/
def rows7 : Array Nat := #[
  0xb08900000c00, 0xbf8900000c00, 0xd08900000c00, 0xd88900000c00, 0xd98900000c00, 0xda8900000c00,
  0xdb8900000c00, 0xdc8900000c00, 0xde8900000c00, 0xe78900000c00, 0xe88900000c00, 0xf28900000c00,
  0xfb8900000c00, 0x1208900000c00, 0x1238900000c00, 0x1248900000c00, 0x12b8900000c00,
  0x12f8900000c00, 0x1318900000c00, 0x1368900000c00, 0x1378900000c00, 0x1398900000c00,
  0x13e8900000c00, 0x1438900000c00,
  0x15ce48315b64820a6848116064592a1844b08a044a2c48449089c44715d044501464411a1643f089e43d2a12439089a438089843715ca4342c50431174e42a1d9e4282244427224242622b6424228c421064241d00cc41115cc40d22f64090000c00,
  0x1478900000c00, 0x1498900000c00, 0x15c8900000c00, 0x15f8900000c00, 0x1608900000c00,
  0x1688900000c00, 0x16a8900000c00, 0x16d8900000c00, 0x16f8900000c00, 0x1778900000c00,
  0x17e8900000c00,
  0x15ce48315b64820a68481160e4592a1844b08a044a2c48449089c44715d044501464411a1643f089e43d2a12439089a438089843715ca4342c50431174e42a1d9e4282244427224242622b6424228c421064241d00cc41115cc40d22f64090000c00,
  0x1818900000c00, 0x1808900000c00, 0x1888900000c00, 0x18b8900000c00, 0x18d8900000c00,
  0x18f8900000c00, 0x1948900000c00, 0x19d8900000c00, 0x1a38900000c00, 0x1a48900000c00,
  0x1a58900000c00, 0x1a68900000c00, 0x1a98900000c00, 0x1b48900000c00, 0x148900000c00,
  0x598900000c00, 0x818900000c00, 0xf08900000c00,
  0x15ce48315b64820a684810ea64592a1844b08a044a2c48449089c44715d044501464411a1643f089e43d2a12439089a438089843715ca4342c50431174e42a1d9e4282244427224242622b6424228c421064241d00cc41115cc40d22f64090000c00,
  0x15ce48315b64820a684810f044592a1844b08a044a2c48449089c44715d044501464411a1643f089e43d2a12439089a438089843715ca4342c50431174e42a1d9e4282244427224242622b6424228c421064241d00cc41115cc40d22f64090000c00,
  0x15ce48315b64820a684810f144592a1844b08a044a2c48449089c44715d044501464411a1643f089e43d2a12439089a438089843715ca4342c50431174e42a1d9e4282244427224242622b6424228c421064241d00cc41115cc40d22f64090000c00,
  0x15ce48315b64820a6848117ee4592a1844b08a044a2c48449089c44715d044501464411a1643f089e43d2a12439089a438089843715ca4342c50431174e42a1d9e4282244427224242622b6424228c421064241d00cc41115cc40d22f64090000c00,
  0x15ce48315b64820a68481181e4592a1844b08a044a2c48449089c44715d044501464411a1643f089e43d2a12439089a438089843715ca4342c50431174e42a1d9e4282244427224242622b6424228c421064241d00cc41115cc40d22f64090000c00,
  0x15ce48315b64820a68481182c4592a1844b08a044a2c48449089c44715d044501464411a1643f089e43d2a12439089a438089843715ca4342c50431174e42a1d9e4282244427224242622b6424228c421064241d00cc41115cc40d22f64090000c00,
  0x15ce48315b64820a684810bca4592a1844b08a044a2c48449089c44715d044501464411a1643f089e43d2a12439089a438089843715ca4342c50431174e42a1d9e4282244427224242622b6424228c421064241d00cc41115cc40d22f64090000c00,
  0x15ce48315b64820a684810c244592a1844b08a044a2c48449089c44715d044501464411a1643f089e43d2a12439089a438089843715ca4342c50431174e42a1d9e4282244427224242622b6424228c421064241d00cc41115cc40d22f64090000c00,
  0x15ce48315b64820a684810c324592a1844b08a044a2c48449089c44715d044501464411a1643f089e43d2a12439089a438089843715ca4342c50431174e42a1d9e4282244427224242622b6424228c421064241d00cc41115cc40d22f64090000c00]

/-- The rows of actions 512 to 575. -/
def rows8 : Array Nat := #[
  0x15ce48315b64820a6848119784592a1844b08a044a2c48449089c44715d044501464411a1643f089e43d2a12439089a438089843715ca4342c50431174e42a1d9e4282244427224242622b6424228c421064241d00cc41115cc40d22f64090000c00,
  0x15ce48315b64820a6848119a84592a1844b08a044a2c48449089c44715d044501464411a1643f089e43d2a12439089a438089843715ca4342c50431174e42a1d9e4282244427224242622b6424228c421064241d00cc41115cc40d22f64090000c00,
  0x15ce48315b64820a6848119b84592a1844b08a044a2c48449089c44715d044501464411a1643f089e43d2a12439089a438089843715ca4342c50431174e42a1d9e4282244427224242622b6424228c421064241d00cc41115cc40d22f64090000c00,
  0x15ce48315b64820a684812a1844b08a044a2c48449089c44715d044501464411a1643f089e43d2a12439089a438089843715ca4342c50431174e42a1d9e4282244427224242622b6424228c421064241d00cc41115cc40d22f64090000c00,
  0x16744cc15ce48315b64820a684812a1844b079244a2a16449078e44716724451a1643f079043d2a12439078c438078a43715ca4342a14431159042a1d9e4282244427224242622b642421a2421064241d00cc41115cc40d22f64090000c00,
  0x1758cd0000c00, 0x1768cd0000c00, 0x1938cd0000c00, 0x1a88cd0000c00, 0x728cd0000c00,
  0xdf8cd0000c00,
  0x16b64cc0e8e4830dc04820a7c4812ab844b07d644a2ab644907d24470dce4451a4a43f07d443d2ab443907d043807ce4370e8a4342bf24310d5a42a20ec4282170427216e42622b64242266421070041d00d64110e8c40d22f64090000c00,
  0x16ba4cc17de48317924820a7e4812ae644b07f444a2ae444907f0447179c4451a4e43f07f243d2ae243907ee43807ec43717da4342c30431164642a21204282224427222242622b64242272421070641d00da41117dc40d22f64090000c00,
  0x16bc4cc0bb64830b744820a804812b1e44b081244a2b1c449080e4470b804451a5243f081043d2b1a439080c438080a4370bb24342c384310b6442a212a4282234427223242622b64242276421070c41d00dc4110bb440d22f64090000c00,
  0x16b24cc196a48318964820a824812b3e44b082c44a2b3c4490828447188a4451a5643f082a43d2b3a4390826438082443719664342c3c43116ec42a212e428225c427225a42622b6424227a421071241d00de411196840d22f64090000c00,
  0x16be4cc15ce48315b64820a844812a1844b084c44a2bf444908484471c1c4451a6443f084a43d2a124390846438084443715ca4342c4643118b042a1d9e4282254427225242622b6424227e421064241d00cc41115cc40d22f64090000c00,
  0x16c04cc15ce48315b64820a684812a1844b08a044a2c48449089c4471a664451a1643f089e43d2a12439089a438089843715ca4342c50431186c42a1d9e4282244427224242622b6424228c421064241d00cc41115cc40d22f64090000c00,
  0x1c884ce15ce48315b64820a684812a1844b079244a2a16449078e44715d04451a1643f079043d2a12439078c438078a43715ca4342a14431167e42a1d9e4282244427224242622b642421a2421064241d00cc41115cc40d22f64090000c00,
  0x15ce48315b64820a6848115fc4592a1844b079244a2a16449078e44715d04451a1643f079043d2a12439078c438078a43715ca4342a14431158842a1d9e4282244427224242622b642421a2421064241d00cc41115cc40d22f64090000c00,
  0x1ca64cf15ce48315b64820a684812a1844b079244a2a16449078e44715d04451a1643f079043d2a12439078c438078a43715ca4342a14431158842a1d9e4282244427224242622b642421a2421064241d00cc41115cc40d22f64090000c00,
  0x1cba4cf15ce48315b64820a684812a1844b079244a2a16449078e44715d04451a1643f079043d2a12439078c438078a43715ca4342a14431158842a1d9e4282244427224242622b642421a2421064241d00cc41115cc40d22f64090000c00,
  0xb18d00000c00, 0x1258d00000c00, 0x1628d00000c00,
  0x15ce48315b64820a684810eee4592a1844b079244a2a16449078e44715d04451a1643f079043d2a12439078c438078a43715ca4342a14431158842a1d9e4282244427224242622b642421a2421064241d00cc41115cc40d22f64090000c00,
  0xef04cf15ce48315b64820a684812a1844b079244a2a16449078e44715d04451a1643f079043d2a12439078c438078a43715ca4342a14431158842a1d9e4282244427224242622b642421a2421064241d00cc41115cc40d22f64090000c00,
  0xf104cf15ce48315b64820a684812a1844b079244a2a16449078e44715d04451a1643f079043d2a12439078c438078a43715ca4342a14431158842a1d9e4282244427224242622b642421a2421064241d00cc41115cc40d22f64090000c00,
  0x15ce48315b64820a68481181a4592a1844b079244a2a16449078e44715d04451a1643f079043d2a12439078c438078a43715ca4342a14431158842a1d9e4282244427224242622b642421a2421064241d00cc41115cc40d22f64090000c00,
  0xba64cf15ce48315b64820a684812a1844b079244a2a16449078e44715d04451a1643f079043d2a12439078c438078a43715ca4342a14431158842a1d9e4282244427224242622b642421a2421064241d00cc41115cc40d22f64090000c00,
  0xba84cf15ce48315b64820a684812a1844b079244a2a16449078e44715d04451a1643f079043d2a12439078c438078a43715ca4342a14431158842a1d9e4282244427224242622b642421a2421064241d00cc41115cc40d22f64090000c00,
  0x15ce48315b64820a684810c104592a1844b079244a2a16449078e44715d04451a1643f079043d2a12439078c438078a43715ca4342a14431158842a1d9e4282244427224242622b642421a2421064241d00cc41115cc40d22f64090000c00,
  0x15c44cf15ce48315b64820a684812a1844b079244a2a16449078e44715d04451a1643f079043d2a12439078c438078a43715ca4342a14431158842a1d9e4282244427224242622b642421a2421064241d00cc41115cc40d22f64090000c00,
  0x15c64cf15ce48315b64820a684812a1844b079244a2a16449078e44715d04451a1643f079043d2a12439078c438078a43715ca4342a14431158842a1d9e4282244427224242622b642421a2421064241d00cc41115cc40d22f64090000c00,
  0x15ce48315b64820a6848119a24592a1844b079244a2a16449078e44715d04451a1643f079043d2a12439078c438078a43715ca4342a14431158842a1d9e4282244427224242622b642421a2421064241d00cc41115cc40d22f64090000c00,
  0x17a44cf15ce48315b64820a684812a1844b079244a2a16449078e44715d04451a1643f079043d2a12439078c438078a43715ca4342a14431158842a1d9e4282244427224242622b642421a2421064241d00cc41115cc40d22f64090000c00,
  0x17a64cf15ce48315b64820a684812a1844b079244a2a16449078e44715d04451a1643f079043d2a12439078c438078a43715ca4342a14431158842a1d9e4282244427224242622b642421a2421064241d00cc41115cc40d22f64090000c00,
  0x26804cf15ce48315b64820a684812a1844b079244a2a16449078e44715d04451a1643f079043d2a12439078c438078a43715ca4342a14431158842a1d9e4282244427224242622b642421a2421064241d00cc41115cc40d22f64090000c00,
  0x26824cf15ce48315b64820a684812a1844b079244a2a16449078e44715d04451a1643f079043d2a12439078c438078a43715ca4342a14431158842a1d9e4282244427224242622b642421a2421064241d00cc41115cc40d22f64090000c00,
  0x19a44cf15ce48315b64820a684812a1844b079244a2a16449078e44715d04451a1643f079043d2a12439078c438078a43715ca4342a14431158842a1d9e4282244427224242622b642421a2421064241d00cc41115cc40d22f64090000c00,
  0x19b44cf15ce48315b64820a684812a1844b079244a2a16449078e44715d04451a1643f079043d2a12439078c438078a43715ca4342a14431158842a1d9e4282244427224242622b642421a2421064241d00cc41115cc40d22f64090000c00,
  0x15ce48315b64820a684812a1844b079244a2a16449078e44715d04451a1643f079043d2a12439078c438078a43715ca4342a14431158842a1d9e4282244427224242622b642421a2421064241d00cc41115cc40d22f64090000c00,
  0xe8e4830dc04820a7c4812ab844b07d644a2ab644907d24470e904451a4a43f07d443d2ab443907d043807ce4370e8a4342bf24310dc242a20ec4282170427216e42622b64242266421070041d00d64110e4a40d22f64090000c00,
  0xe8e4830dc04820a7c4812ab844b07d644a2ab644907d24470e904451a4a43f07d443d2ab443907d043807ce4370e8a4342bf24310dc242a20ec4282170427216e42622b64242266421070041d00d64110e8c40d22f64090000c00,
  0x17de48317924820a7e4812ae644b07f444a2ae444907f044717e04451a4e43f07f243d2ae243907ee43807ec43717da4342c3043116ac42a21204282224427222242622b64242272421070641d00da41117dc40d22f64090000c00,
  0x15ce48315b64820a684812a1844b08a044a2c48449089c44715d04451a1643f089e43d2a12439089a438089843715ca4342c50431158842a1d9e4282244427224242622b6424228c421064241d00cc41115cc40d22f64090000c00,
  0x15ce48315b64820a844812a1844b084c44a2bf4449084844715d04451a6443f084a43d2a124390846438084443715ca4342c46431158842a1d9e4282254427225242622b6424227e421064241d00cc41115cc40d22f64090000c00,
  0xe8e4830dc04820a7c4812ab844b07d644a2a16449078e4470e904451a4a43f07d443d2ab443907d043807ce4370e8a4342a144310dc242a20ec4282170427216e42622b642421a2421070041d00d64110e8c40d22f64090000c00,
  0x196a48318964820a824812b3e44b082c44a2b3c4490828447196c4451a5643f082a43d2b3a4390826438082443719664342c3c43117a842a212e428225c427225a42622b6424227a421071241d00de411196840d22f64090000c00,
  0x17de48317924820a7e4812ae644b07f444a2a16449078e44717e04451a4e43f07f243d2ae243907ee43807ec43717da4342a1443116ac42a21204282224427222242622b642421a2421070641d00da41117dc40d22f64090000c00,
  0xbb64830b744820a804812b1e44b081244a2b1c449080e4470bb84451a5243f081043d2b1a439080c438080a4370bb24342c384310b7642a212a4282234427223242622b64242276421070c41d00dc4110bb440d22f64090000c00,
  0xbb64830b744820a804812b1e44b081244a2a16449078e4470bb84451a5243f081043d2b1a439080c438080a4370bb24342a144310b7642a212a4282234427223242622b642421a2421070c41d00dc4110bb440d22f64090000c00,
  0x196a48318964820a824812b3e44b082c44a2a16449078e447196c4451a5643f082a43d2b3a4390826438082443719664342a1443117a842a212e428225c427225a42622b642421a2421071241d00de411196840d22f64090000c00,
  0xbb64830b744820a804812b1e44b081244a2b1c449080e4470bb84451a5243f081043d2b1a439080c438080a4370bb24342c384310b7642a212a4282234427223242622b64242276421070c41d00dc4110b8c40d22f64090000c00,
  0x15ce48315b64820a844812a1844b084c44a2a16449078e44715d04451a6443f084a43d2a124390846438084443715ca4342a14431158842a1d9e4282254427225242622b642421a2421064241d00cc41115cc40d22f64090000c00,
  0x15ce48315b64820a684812a1844b08a044a2a16449078e44715d04451a1643f089e43d2a12439089a438089843715ca4342a14431158842a1d9e4282244427224242622b642421a2421064241d00cc41115cc40d22f64090000c00,
  0x5504d217ac4d116cc4a6110e455110c4540dae4530c4a4520dac44f08e644e0d38447032e4412a1043915364342a484311d7c42d2224427222242622b642416804210d3641f01da41d0b1a41201a44110f544070b2e4040000c00,
  0x5504d217ae4d116cc4a6111645511144540dcc4530ce24520b9244f08e644e0d52447032e4412a1043915364342a484311d7c42d2224427222242622b642416aa4210d5041f01da41d0b1a41201a44110f544070b304040000c00,
  0x5504d217b04d116cc4a6111e455111c4540dec4530d284520f2844f08e644e0d62447032e4412a1043915364342a484311d7c42d2224427222242622b642416b44210d6041f01da41d0b1a41201a44110f544070b384040000c00,
  0x5504d217b24d116cc4a6112245511204540dd24530d164520de244f08e644e0d5e447032e4412a1043915364342a484311d7c42d2224427222242622b642416b04210d5c41f01da41d0b1a41201a44110f544070b324040000c00,
  0x5504d217b24d116cc4a6112245511204540dd24530d164520f3e44f08e644e0d5e447032e4412a1043915364342a484311d7c42d2224427222242622b642416b04210d5c41f01da41d0b1a41201a44110f544070b324040000c00,
  0x5504d217b24d116cc4a6112245511204540dd24530d164520f4844f08e644e0d5e447032e4412a1043915364342a484311d7c42d2224427222242622b642416b04210d5c41f01da41d0b1a41201a44110f544070b324040000c00,
  0x5504d217ac4d116cc4a6110e455110c4540dae4530c4a452111044f08e644e0d38447032e4412a1043915364342a484311d7c42d2224427222242622b642416804210d3641f01da41d0b1a41201a44110f544070b2e4040000c00,
  0x5504d217b04d116cc4a6111e455111c4540dec4530d28452111844f08e644e0d62447032e4412a1043915364342a484311d7c42d2224427222242622b642416b44210d6041f01da41d0b1a41201a44110f544070b384040000c00,
  0x5504d217ae4d116cc4a6111645511144540dcc4530ce24520de244f08e644e0d52447032e4412a1043915364342a484311d7c42d2224427222242622b642416aa4210d5041f01da41d0b1a41201a44110f544070b304040000c00]

/-- The rows of actions 576 to 639. -/
def rows9 : Array Nat := #[
  0x5504d217b44d116cc4a6112645511244540df04530d2a4520f4844f08e644e0d66447032e4412a1043915364342a484311d7c42d2224427222242622b642416b84210d6441f01da41d0b1a41201a44110f544070b3e4040000c00,
  0x5504d217ae4d116cc4a6111645511144540dcc4530ce2452124644f08e644e0d52447032e4412a1043915364342a484311d7c42d2224427222242622b642416aa4210d5041f01da41d0b1a41201a44110f544070b304040000c00,
  0x17ea4d217b24d116cc4a6112245511204540dd24530d164520de644f08e844e0d5e447032e4412a1043915364342a484311d7c42d2224427222242622b642416b04210d5c41f01da41d0b2041201a44110f544070b324040000c00,
  0x28a700158a200028a2004045c001585c0e3c44f0292440001583d035843b000383a01b042a220242722004260000c00,
  0x28ac00158a200028a2004045c001585c0e3c44f0292440001583d035843b000383a1a1242a01fe41d0e324070000c00,
  0x28a700158a200028a2004045c001585c0e3c44f0292440001583d035843b000383a05c842a224442722424260000c00,
  0x28a700158a200028a2004045c001585c0d1244f0292440001583d035843b000383a01b042a220242722004260000c00,
  0x28ac00158a200028a2004045c001585c0d1244f0292440001583d035843b000383a1a1242a01fe41d0e324070000c00,
  0x28a700158a200028a2004045c001585c0d1244f0292440001583d035843b000383a05c842a224442722424260000c00,
  0x28a700158a200028a2004045c001585c0d3c44f0292440001583d035843b000383a01b042a220242722004260000c00,
  0x28ac00158a200028a2004045c001585c0d3c44f0292440001583d035843b000383a1a1242a01fe41d0e324070000c00,
  0x28a700158a200028a2004045c001585c0d3c44f0292440001583d035843b000383a05c842a224442722424260000c00,
  0x28d30023866000286602bc440002383d037843b002383b000383a0baa42a223442722324260000c00,
  0x28d3002386702da44003ea43b002383b000383a0baa42a223442722324260000c00,
  0x28d3006186702da44003ea43b000383a0baa42a223442722324260000c00,
  0x28d402bc440037843b000383a0baa42a223442722324260000c00,
  0x28d402bc44003ea43b000383a0baa42a223442722324260000c00,
  0x18884d116cc4a6001787100168711306455130445410684530db84520e7e447032e4412a1043915364342a484311d7c42d2224427222242622b642417584210e7c41f01da41d01a44110f544070b5c4040000c00,
  0x28ae004045c0292440032c43b000383a01b042a220242722004260000c00,
  0x28d5004045c0292440032c43b000383a1a1242a01fe41d0e324070000c00,
  0x28ae004045c0292440032c43b000383a05c842a224442722424260000c00,
  0x28d60292440032c43b000383a0b9e42a2170427216e4260000c00,
  0x28d3006186b000286b006185c02bc440037843b000383a0baa42a223442722324260000c00,
  0x28d6029244003ea43b000383a0baa42a223442722324260000c00,
  0x28ae006045c0292440032c43b000383a0b9e42a2170427216e4260000c00,
  0x28d5006045c0292440032c43b000383a1a1242a01fe41d0e324070000c00,
  0x28ae006045c0292440032c43b000383a226e42a224442722424260000c00,
  0x28ae009045c0292440032c43b000383a05c842a224442722424260000c00,
  0x28d702e6440041843b000383a0b9e42a2170427216e4260000c00,
  0x28d702e644003ea43b000383a0baa42a223442722324260000c00,
  0x28d5009045c0292440032c43b000383a1a1242a01fe41d0e324070000c00,
  0x28ae009045c0292440032c43b000383a0b9e42a2170427216e4260000c00,
  0x28a700158a200028a2004045c001585c0e3c44f0292440001583d035843b000383a229e42a0000c00,
  0x28d802ac46e02ac46d000286d02bc440037843b000383a0baa42a223442722324260000c00,
  0x28d902ac46e02ac46d000286d02bc440037843b000383a188242a01fe41d0e324070000c00,
  0x28d307a845c00238590002859002384e02fe440047443b002383b000383a0baa42a223442722324260000c00,
  0x4b8da0000c00, 0xb28da0000c00, 0xb38da0000c00, 0x1268da0000c00,
  0x23544dc00078db009189c283045b02be440037c43b000883a088c42402224110000c00, 0x1128de00b28dd0000c00,
  0x1138de00b38dd0000c00, 0x1648da0000c00,
  0x28a700158a200028a2004045c001585c0d1244f0292440001583d035843b000383a229e42a0000c00,
  0x28a700158a200028a2004045c001585c0d3c44f0292440001583d035843b000383a229e42a0000c00,
  0x28df031644004dc43b000383a0baa42a223442722324260000c00,
  0x28df031644003ea43b000383a0baa42a223442722324260000c00,
  0x78a700158a200078a2004045c001585c0e3c44f029a440001583d035a43b000883a0000c00,
  0x28a700158a200028a2004045c001585c0e3c44f0292440001583d035843b000383a0000c00,
  0x28e002c844003ba43b000383a1a1242a01fe41d0e324070000c00,
  0x28b202c844003ba43b000383a05c842a224442722424260000c00,
  0x28e107a845c02fe440047443b000383a0baa42a223442722324260000c00,
  0x28e107ba45c02fe440047443b000383a0baa42a223442722324260000c00,
  0x3b8e300078e300078e2003b8de2a4c45b000785b02be440037c43b000883a088c42400078240000c00,
  0x28b202c844003ba43b000383a01b042a220242722004260000c00,
  0x28d300238590002859002384e02fe440047443b002383b000383a0baa42a223442722324260000c00,
  0x728e40000c00, 0xdf8e40000c00,
  0x78e526e64dc0091897293845b02be440037c43b000883a089042402244110000c00,
  0x78a700158a200078a2004045c001585c0d1244f029a440001583d035a43b000883a0000c00,
  0x28a700158a200028a2004045c001585c0d1244f0292440001583d035843b000383a0000c00,
  0x28b202c844003ba43b000383a1a3a42a222442722224260000c00,
  0x78a700158a200078a2004045c001585c0d3c44f029a440001583d035a43b000883a0000c00]

/-- The rows of actions 640 to 703. -/
def rows10 : Array Nat := #[
  0x28a700158a200028a2004045c001585c0d3c44f0292440001583d035843b000383a0000c00,
  0x28b202c844003ba43b000383a0b9e42a2170427216e4260000c00,
  0x28b202c844003ea43b000383a0baa42a223442722324260000c00,
  0x28e602f2440044443b000383a0baa42a223442722324260000c00,
  0x28e602f244003ea43b000383a0baa42a223442722324260000c00,
  0x28b202c844003ba43b000383a226e42a224442722424260000c00, 0x78e703ee43b000883a0000c00,
  0x458e82a2445b078042402224110000c00,
  0x78e923544dc009189c283045b029a440033443b000883a088c42402224110000c00,
  0x3b8eb00078eb00078ea003b8de003b86f002586f000786f084245c2a4c45b000785b02be440283843d003b83d037c43b002583b000883a088c42400078240000c00,
  0x28ec00398e300028e300398de02bc440037843b000383a0000c00,
  0x3b8ed003b8eb00078eb00078ea003b871002587100078712aee45b000785b02be440037c43b002583b000883a089042400078240000c00,
  0x918ef00078ee23544dc283045b02be440037c43b000883a088c42402224110000c00,
  0x78f023544dc009189c283045b02e8440041c43b000883a088c42402224110000c00,
  0x28e102fe440047443b000383a0baa42a223442722324260000c00,
  0x28e102fe44003ea43b000383a0baa42a223442722324260000c00,
  0x28f1030a44004a443b000383a0baa42a223442722324260000c00,
  0x28f1030a44003ea43b000383a0baa42a223442722324260000c00,
  0x28d3006185c02da44003ea43b000383a0baa42a223442722324260000c00,
  0x28f202ac46e02ac46d000286d02da44003ea43b000383a0baa42a223442722324260000c00,
  0x28d30023866000286602bc440002383d037843b002383b000383a0000c00,
  0x78d30025866000786602be440002583d037c43b002583b000883a0000c00,
  0x28d302da440036243b000383a0baa42a223442722324260000c00, 0x518f31d7d42d005182d0000c00,
  0x78f4003b8e300078e3003b8de2a4c45b000785b029a440033443b000883a088c42400078240000c00,
  0x28f502ac46e02ac46d000286d02da44003ea43b000383a234242a01fe41d000281d0e324070000c00,
  0x258f6003b8eb00078eb00078ea003b8de003b86400258642a4c45b000785b02dc44003ee43b002583b000883a088c42400078240000c00,
  0x11e8f70000c00, 0x78d402be440037c43b000883a0000c00,
  0x28d3002386702da44003ea43b002383b000383a0000c00,
  0x78d3002586702dc44003ee43b002583b000883a0000c00, 0x28d3006186702da44003ea43b000383a0000c00,
  0x78d3006286702dc44003ee43b000883a0000c00,
  0x258f800078f8003b8eb00078eb00078ea003b8de003b864002586400078642a4c45b000785b02be440002583d037c43b002583b000883a088c42400078240000c00,
  0x28d402bc440037843b000383a0000c00,
  0x398fa00028f900398eb00028eb02bc440037843b002383b000383a0000c00,
  0x918fb00078e523544dc283045b02be440037c43b000883a088c42402224110000c00,
  0x28d302da440039c43b000383a0baa42a223442722324260000c00,
  0x78fc003b8e300078e3003b8de2a4c45b000785b02e8440041c43b000883a088c42400078240000c00,
  0x78fd23544dc009189c283045b02cc44003be43b000883a088c42402224110000c00,
  0x28d402bc44003ea43b000383a0000c00, 0x28d302da440040a43b000383a0baa42a223442722324260000c00,
  0x78fe23544dc009189c283045b02f4440044843b000883a088c42402224110000c00,
  0x28d302da44003ea43b000383a0baa42a223442722324260000c00,
  0x28d302da440046443b000383a0baa42a223442722324260000c00,
  0x28d302da440049443b000383a0baa42a223442722324260000c00,
  0x28d302da44004c443b000383a0baa42a223442722324260000c00,
  0x28d302da44003de43b000383a0baa42a223442722324260000c00, 0x78d402be44003ee43b000883a0000c00,
  0x78ff23544dc009189c283045b031844004e043b000883a088c42402224110000c00,
  0x28d302da44004fc43b000383a0baa42a223442722324260000c00,
  0x28d302da440043a43b000383a0baa42a223442722324260000c00,
  0x28ae004045c0292440032c43b000383a229e42a0000c00,
  0x78d300258660007866002583d037c43b002583b000883a0000c00,
  0x519001d7d42d005182d18a441e005181e0000c00, 0xad9010000c00,
  0x290200398e300028e300398de0292440032c43b000383a0000c00,
  0x3990300028f900238f600398eb00028eb02da44003ea43b002383b000383a0000c00, 0x11f9010000c00,
  0x3b904003b8eb00078eb00078ea006285c2a4c45b000785b02dc44003ee43b000883a088c42400078240000c00,
  0xb290501128de0000c00, 0xb390501138de0000c00, 0x78d4037c43b000883a0000c00,
  0x78d3002586703ee43b002583b000883a0000c00]

/-- The rows of actions 704 to 767. -/
def rows11 : Array Nat := #[
  0x78d3006286703ee43b000883a0000c00,
  0x3990300028f900238f800028f800398eb00028eb02bc440002383d037843b002383b000383a0000c00,
  0x3b8eb00078eb00078ea003b8de006286f003b86f000786f006285c2a4c45b000785b02be440037c43b000883a088c42400078240000c00,
  0xb290601129040000c00, 0xb390601139040000c00,
  0x3b909003b908000790800079072a4c45b000785b02cc44003be43b000883a088c42400078240000c00,
  0xb290a01128ed0000c00, 0xb390a01138ed0000c00, 0x28ae006045c0292440032c43b000383a229e42a0000c00,
  0x290b00398e300028e300398de02e6440041843b000383a0000c00,
  0x9190c00078e523544dc283045b02dc44003ee43b000883a088c42402224110000c00,
  0x790d23544dc009189c283045b0300440047843b000883a088c42402224110000c00,
  0x790e23544dc009189c283045b030c44004a843b000883a088c42402224110000c00,
  0x790f003b8e300078e3003b8de2a4c45b000785b031844004e043b000883a088c42400078240000c00,
  0x7910003b909003b90800079082a4c45b000785b02f4440044843b000883a088c42400078240000c00,
  0x28ae009045c0292440032c43b000383a229e42a0000c00, 0x78ae004045c029a440033443b000883a0000c00,
  0x28ae004045c0292440032c43b000383a0000c00, 0xf9110000c00, 0x28d60292440032c43b000383a0000c00,
  0x78d6029a440033443b000883a0000c00, 0x459110000c00, 0x4b9050000c00,
  0x28d3006186b000286b006185c02bc440037843b000383a0000c00, 0x729050000c00, 0xb29050000c00,
  0xb39050000c00, 0xdf9050000c00, 0x11d9110000c00, 0x1269050000c00,
  0x3990400028f900398eb00028eb006185c02da44003ea43b000383a0000c00, 0x1649050000c00,
  0x28d6029244003ea43b000383a0000c00,
  0x28f900398eb00028eb00398de006186f003986f000286f006185c02bc440037843b000383a0000c00,
  0x3991200028f900398eb00028eb02bc440037843b002383b000383a0000c00,
  0x9191300078e523544dc283045b02dc44003ee43b000883a088c42402224110000c00,
  0x291400399090039908000290802c844003ba43b000383a0000c00,
  0x3b91600079160007915003b8de2a4c45b000785b02be440037c43b000883a088c42400078240000c00,
  0x791703ee43b000883a0000c00, 0x78d6029a44003ee43b000883a0000c00,
  0x78ae006045c029a440033443b000883a0000c00, 0x28ae006045c0292440032c43b000383a0000c00,
  0x791823544dc009189c283045b02dc44003ee43b000883a088c42402224110000c00,
  0x28d702e6440041843b000383a0000c00, 0x28d702e644003ea43b000383a0000c00,
  0x78d702e844003ee43b000883a0000c00, 0x291900398e300028e300398de031644004dc43b000383a0000c00,
  0x291a00399090039908000290802f2440044443b000383a0000c00,
  0x78ae009045c029a440033443b000883a0000c00, 0x28ae009045c0292440032c43b000383a0000c00,
  0x78d702e8440041c43b000883a0000c00,
  0x791b003b909003b90800079082a4c45b000785b0300440047843b000883a088c42400078240000c00,
  0x791c003b909003b90800079082a4c45b000785b030c44004a843b000883a088c42400078240000c00,
  0x78d6033443b000883a0000c00, 0x28b202c844003ba43b000383a229e42a0000c00,
  0x78d3006286b000786b02be440037c43b000883a0000c00,
  0x78d3006286b000786b006285c037c43b000883a0000c00,
  0x28d802ac46e02ac46d000286d02bc440037843b000383a0000c00,
  0x78d802ae46e02ae46d000786d02be440037c43b000883a0000c00,
  0x28d307a845c00238590002859002384e02fe440047443b002383b000383a0000c00,
  0x78f207aa46d07ac45c00258590007859002584e0300440047843b002583b000883a0000c00,
  0x791d003b909003b90800079082a4c45b000785b02dc44003ee43b000883a088c42400078240000c00,
  0xb291e01129090000c00, 0xb391e01139090000c00]

/-- The rows of actions 768 to 831. -/
def rows12 : Array Nat := #[
  0x291f0039916000291600398de02bc440037843b000383a0000c00, 0x11292100b29200000c00,
  0x11392100b39200000c00, 0x28b202c844003ba43b000383a273c42a0000c00,
  0x28df031644004dc43b000383a0000c00, 0x28df031644003ea43b000383a0000c00,
  0x78d7041c43b000883a0000c00, 0x292200399090039908000290802fe440047443b000383a0000c00,
  0x2923003990900399080002908030a44004a443b000383a0000c00, 0x78df031844003ee43b000883a0000c00,
  0x78df031844004e043b000883a0000c00, 0x78d802ae46e02ae46d000786d037c43b000883a0000c00,
  0x5505250b1a52417d24d116c44a612044550e4645411f24530e6645210144472a1043914ea4342a484311d7c42d2224427222242622b642417ce421101241f02a041d01a44110b5a4040000c00,
  0x28e107a845c02fe440047443b000383a0000c00, 0x792607aa46d07ac45c0300440047843b000883a0000c00,
  0x28e107ba45c02fe440047443b000383a0000c00, 0x792607aa46d07bc45c0300440047843b000883a0000c00,
  0x28d300238590002859002384e02fe440047443b002383b000383a0000c00,
  0x78d300258590007859002584e0300440047843b002583b000883a0000c00,
  0x292700399090039908000290802da44003ea43b000383a0000c00, 0xb292801129090000c00,
  0xb392801139090000c00,
  0xe9a5250b1e52417d24d116c44a612044550e4645411f24530e6645210144472a1043914ea4342a484311d7c42d2224427222242622b642417ce421101241f02a041d01a44110b5a4040000c00,
  0x17ea5250b2052417d24d116c44a612044550e4645411f24530e6645210144472a1043914ea4342a484311d7c42d2224427222242622b642417ce421101241f02a041d01a44110b5a4040000c00,
  0xbc25250b2252417d24d116c44a612044550e4645411f24530e6645210144472a1043914ea4342a484311d7c42d2224427222242622b642417ce421101241f02a041d01a44110b5a4040000c00,
  0x19745250b2452417d24d116c44a612044550e4645411f24530e6645210144472a1043914ea4342a484311d7c42d2224427222242622b642417ce421101241f02a041d01a44110b5a4040000c00,
  0x1cf25250b2652417d24d116c44a612044550e4645411f24530e6645210144472a1043914ea4342a484311d7c42d2224427222242622b642417ce421101241f02a041d01a44110b5a4040000c00,
  0x28b202c844003ba43b000383a0000c00, 0x28b202c844003ea43b000383a0000c00,
  0x78b202cc44003ee43b000883a0000c00, 0x28e602f2440044443b000383a0000c00,
  0x28e602f244003ea43b000383a0000c00, 0x78b202cc44003be43b000883a0000c00,
  0x78e602f4440044843b000883a0000c00, 0x78e602f444003ee43b000883a0000c00,
  0x78df04e043b000883a0000c00, 0x78d300258590007859002584e047843b002583b000883a0000c00,
  0x28e102fe440047443b000383a0000c00, 0x28e102fe44003ea43b000383a0000c00,
  0x28f1030a44004a443b000383a0000c00, 0x28f1030a44003ea43b000383a0000c00,
  0x78b203be43b000883a0000c00, 0x28d3006185c02da44003ea43b000383a0000c00,
  0x28f202ac46e02ac46d000286d02da44003ea43b000383a0000c00,
  0x78f202ae46e02ae46d000786d02dc44003ee43b000883a0000c00, 0x78e6044843b000883a0000c00,
  0x78e10300440047843b000883a0000c00, 0x78e1030044003ee43b000883a0000c00,
  0x78f1030c44004a843b000883a0000c00, 0x78f1030c44003ee43b000883a0000c00,
  0x28d302da440036243b000383a0000c00, 0x78d302dc440036443b000883a0000c00,
  0x55452517d24d116c44a612044550e4645411f24530e6645210144472a1043914ea4342a484311d7c42d2224427222242622b642417ce421101241f02a041d01a44110b5a4040000c00,
  0x55652517d24d116c44a612044550e4645411f24530e6645210144472a1043914ea4342a484311d7c42d2224427222242622b642417ce421101241f02a041d01a44110b5a4040000c00,
  0x55852517d24d116c44a612044550e4645411f24530e6645210144472a1043914ea4342a484311d7c42d2224427222242622b642417ce421101241f02a041d01a44110b5a4040000c00,
  0x28d302da440039c43b000383a0000c00, 0x78d302dc440039e43b000883a0000c00,
  0xef252517d24d116c44a612044550e4645411f24530e6645210144472a1043914ea4342a484311d7c42d2224427222242622b642417ce421101241f02a041d01a44110b5a4040000c00,
  0xf1252517d24d116c44a612044550e4645411f24530e6645210144472a1043914ea4342a484311d7c42d2224427222242622b642417ce421101241f02a041d01a44110b5a4040000c00,
  0xf1a52517d24d116c44a612044550e4645411f24530e6645210144472a1043914ea4342a484311d7c42d2224427222242622b642417ce421101241f02a041d01a44110b5a4040000c00,
  0x181c52517d24d116c44a612044550e4645411f24530e6645210144472a1043914ea4342a484311d7c42d2224427222242622b642417ce421101241f02a041d01a44110b5a4040000c00,
  0x182a52517d24d116c44a612044550e4645411f24530e6645210144472a1043914ea4342a484311d7c42d2224427222242622b642417ce421101241f02a041d01a44110b5a4040000c00,
  0x183252517d24d116c44a612044550e4645411f24530e6645210144472a1043914ea4342a484311d7c42d2224427222242622b642417ce421101241f02a041d01a44110b5a4040000c00,
  0xc1252517d24d116c44a612044550e4645411f24530e6645210144472a1043914ea4342a484311d7c42d2224427222242622b642417ce421101241f02a041d01a44110b5a4040000c00]

/-- The rows of actions 832 to 895. -/
def rows13 : Array Nat := #[
  0xc3052517d24d116c44a612044550e4645411f24530e6645210144472a1043914ea4342a484311d7c42d2224427222242622b642417ce421101241f02a041d01a44110b5a4040000c00,
  0xc3852517d24d116c44a612044550e4645411f24530e6645210144472a1043914ea4342a484311d7c42d2224427222242622b642417ce421101241f02a041d01a44110b5a4040000c00,
  0x19a652517d24d116c44a612044550e4645411f24530e6645210144472a1043914ea4342a484311d7c42d2224427222242622b642417ce421101241f02a041d01a44110b5a4040000c00,
  0x19b652517d24d116c44a612044550e4645411f24530e6645210144472a1043914ea4342a484311d7c42d2224427222242622b642417ce421101241f02a041d01a44110b5a4040000c00,
  0x19be52517d24d116c44a612044550e4645411f24530e6645210144472a1043914ea4342a484311d7c42d2224427222242622b642417ce421101241f02a041d01a44110b5a4040000c00,
  0x1cf652517d24d116c44a612044550e4645411f24530e6645210144472a1043914ea4342a484311d7c42d2224427222242622b642417ce421101241f02a041d01a44110b5a4040000c00,
  0x1cf852517d24d116c44a612044550e4645411f24530e6645210144472a1043914ea4342a484311d7c42d2224427222242622b642417ce421101241f02a041d01a44110b5a4040000c00,
  0x1cfa52517d24d116c44a612044550e4645411f24530e6645210144472a1043914ea4342a484311d7c42d2224427222242622b642417ce421101241f02a041d01a44110b5a4040000c00,
  0x28d302da440040a43b000383a0000c00, 0x78d302dc440040c43b000883a0000c00,
  0x28d302da44003ea43b000383a0000c00, 0x28d302da440046443b000383a0000c00,
  0x78d302dc440046643b000883a0000c00, 0x28d302da440049443b000383a0000c00,
  0x78d302dc440049643b000883a0000c00, 0x28d302da44004c443b000383a0000c00,
  0x78d302dc44004c643b000883a0000c00, 0x28d302da44003de43b000383a0000c00,
  0x78d302dc44003e043b000883a0000c00, 0x78d3006285c03ee43b000883a0000c00,
  0x78f202ae46e02ae46d000786d03ee43b000883a0000c00, 0x28d302da44004fc43b000383a0000c00,
  0x78d302dc44004fe43b000883a0000c00, 0x28d302da440043a43b000383a0000c00,
  0x78d302dc440043c43b000883a0000c00, 0x78d302dc44003ee43b000883a0000c00,
  0x78e1047843b000883a0000c00, 0x78f104a843b000883a0000c00, 0x78d3036443b000883a0000c00,
  0x78d3039e43b000883a0000c00, 0x78d3040c43b000883a0000c00, 0x78d3046643b000883a0000c00,
  0x78d3049643b000883a0000c00, 0x78d304c643b000883a0000c00, 0x78d303e043b000883a0000c00,
  0x78d304fe43b000883a0000c00, 0x78d3043c43b000883a0000c00,
  0x17d24d116c44a612044550e4645411f24530e6645210144472a1043914ea4342a484311d7c42d2224427222242622b642417ce421101241f02a041d01a44110b5a4040000c00,
  0x14da52a17d252916704a612044550e4645411e64530d2e4520d2c44f0e444472a1043914d8434147c4310d3042f20e642d222442722224260fc641f02a041d0b2a4120000c00,
  0x14da52a17d252916704a612044550e4645411e64530d2e4520d3444f0e444472a1043914d8434147c4310d3042f20e642d222442722224260fc641f02a041d0b2c4120000c00,
  0x14db52a00ee92a17d352900ee92916714a600ee8a6120545500ee8550e4745400ee85411e745300ee8530d2f45200ee85200ee84f0e4544700ee8472a1143900ee83914d943400ee834147d43100ee8310d3142f00ee82f20e742d00ee82d222542700ee827222342600ee8260fc741f00ee81f02a141d00ee81d0b2d41200ee8120000c00,
  0x1592b017e4a32be04a00e3c44f001584f0b6644e001584e037443b272c4342b724332b704322bda4311d00430148e42f1d7c42d29984202c4041f2b7441e1a6040d1c1640c1c1440b2c3e40917c64071cfe406272e4050000c00,
  0x1592b017e4a32be04a00d1244f001584f0b6644e001584e037443b272c4342b724332b704322bda4311d00430148e42f1d7c42d29984202c4041f2b7441e1a6040d1c1640c1c1440b2c3e40917c64071cfe406272e4050000c00,
  0x1592b017e4a32be04a00d3c44f001584f0b6644e001584e037443b272c4342b724332b704322bda4311d00430148e42f1d7c42d29984202c4041f2b7441e1a6040d1c1640c1c1440b2c3e40917c64071cfe406272e4050000c00,
  0x14da52a17d252916704a612044550e4645411e64530d2e4520c7444f0e444472a1043914d8434147c4310d3042f20e642d222442722224260fc641f02a041d0b364120000c00,
  0x14da52a17d252916704a612044550e4645411e64530d2e4520cbe44f0e444472a1043914d8434147c4310d3042f20e642d222442722224260fc641f02a041d0b2c4120000c00,
  0x1592b017e4a32be04a00ddc44f001584f0b6644e001584e037443b272c4342b724332b704322bda4311d00430148e42f1d7c42d29984202c4041f2b7441e1a6040d1c1640c1c1440b2c3e40917c64071cfe406272e4050000c00,
  0x14da52a17d252916704a612044550e4645411e64530d2e45201f644f0e444472a1043914d8434147c4310d3042f20e642d222442722224260fc641f02a041d0b3c4120000c00,
  0x14da52a17d252916704a612044550e4645411e64530d2e45201fc44f0e444472a1043914d8434147c4310d3042f20e642d222442722224260fc641f02a041d0b2c4120000c00,
  0x1592b017e4a32be04a0124444f001584f0b6644e001584e037443b272c4342b724332b704322bda4311d00430148e42f1d7c42d29984202c4041f2b7441e1a6040d1c1640c1c1440b2c3e40917c64071cfe406272e4050000c00,
  0x14da52a17d252916704a612044550e4645411e64530d2e45205ac44f0e444472a1043914d8434147c4310d3042f20e642d222442722224260fc641f02a041d0b424120000c00,
  0x14da52a17d252916704a612044550e4645411e64530d2e45205ae44f0e444472a1043914d8434147c4310d3042f20e642d222442722224260fc641f02a041d0b2c4120000c00,
  0x14da52a17d252916704a612044550e4645411e64530d2e45206fc44f0e444472a1043914d8434147c4310d3042f20e642d222442722224260fc641f02a041d0b464120000c00,
  0x14da52a17d252916704a612044550e4645411e64530d2e45206fe44f0e444472a1043914d8434147c4310d3042f20e642d222442722224260fc641f02a041d0b2c4120000c00,
  0x18be52c1a724a6137e455137c45411e24530e424520e4044f0b6644e0fb8447032e44114d4434224442722424260fb641f020441d0f544070000c00,
  0x3692d1be44dc28a845b1cfc428088842402ce41d02204110000c00,
  0x195652c1a724a613a845513a645412064530e884520d4244f0b6644e10ae447032e44114d44342244427224242610ac41f020441d0f544070000c00,
  0x195e52c1a724a613ac45513aa45412224530f224520d1444f0b6644e10d4447032e44114d44342244427224242610d241f020441d0f544070000c00,
  0x196252c1a724a613b045513ae45412264530f324520dde44f0b6644e10fa447032e44114d44342244427224242610f841f020441d0f544070000c00,
  0x196452c1a724a613b445513b245412344530f3c452123244f0b6644e1102447032e44114d443422444272242426110041f020441d0f544070000c00,
  0x19ca52c1a724a613ba45513b8454123e4530f46452131244f0b6644e110a447032e44114d443422444272242426110841f020441d0f544070000c00,
  0x4092e0000c00, 0xa592e0000c00,
  0x1592f017e4a32be04a0037243b272c4342b724332b704322bda4311d00430148e42f1d7c42d29984202c4041f2b7441e1a6040d1c1640c1c1440b2c3e40917c64071cfe406272e4050000c00]

/-- The rows of actions 896 to 959. -/
def rows14 : Array Nat := #[
  0x1592b017e4a32be04a0005d871005c8710015871037443b272c4342b724332b704322bda4311d00430148e42f1d7c42d29984202c4041f2b7441e1a6040d1c1640c1c1440b2c3e40917c64071cfe406272e4050000c00,
  0x91930295045b088842402204110000c00, 0x91930295245b088842402204110000c00,
  0x91930295445b088842402204110000c00, 0x866532003b9312b2645b08884240000c00,
  0x1a8852c1a724a600178710016871140a4551408454137a45311dc45212d2447032e44114d44342244427224242612d041f020441d0f544070000c00,
  0xd9331be44dc28a845b1cfc42802ce41d0000c00, 0xb19340000c00, 0x1259340000c00, 0x1629340000c00,
  0x188e70d1c492001a83b0000c00, 0x409340000c00, 0x399350000c00, 0x3b9312b2645b08884240000c00,
  0x3893608884240000c00, 0x3e937294a45b02204110000c00, 0xa59340000c00, 0xa09350000c00,
  0x3d93808665320000c00, 0x3893808685320000c00, 0x12893808665320000c00, 0xd9391cfc4280000c00,
  0x4c93a02204110000c00, 0x8c93a02204110000c00, 0xb58e700388de0000c00,
  0xb593b08aa4de081643808144370000c00, 0xb793b08aa4de081643808144370000c00,
  0x1993c008e8e300198e3008e8de001a83b0000c00, 0x793d23544dc009189c283045b0000c00,
  0x3293c00938e300328e300938de003383b0000c00, 0x793e009789c0000c00, 0x4993f00a19210000c00,
  0x4993f01049210000c00, 0x139402b1445b002c4070000c00, 0x139402b1645b002c4070000c00,
  0x13941002c4070000c00, 0xa39380000c00, 0x1159380000c00, 0x1589380000c00,
  0x139422b3645b00304070000c00, 0x139422b3845b00304070000c00, 0x1394300304070000c00,
  0x188e70d1c4920000c00, 0x379380000c00, 0x389380000c00, 0x3a9380000c00, 0x3d9380000c00,
  0x3e944294c45b0000c00, 0x3e9380000c00, 0x3e945076a41d0000c00, 0x8e9380000c00,
  0x91944295045b0000c00, 0x91944295645b0000c00, 0x919380000c00, 0x939380000c00, 0x959380000c00,
  0x9694608144370000c00, 0x979380000c00, 0x999380000c00, 0x9a9380000c00,
  0x9c93b08aa4de081643808144370000c00, 0x9d948003e947076a41d0000c00, 0x9e8e7081a4de0000c00,
  0x9f945076a41d0000c00]

/-- The rows of actions 960 to 1023. -/
def rows15 : Array Nat := #[
  0xa19380000c00, 0xa29380000c00, 0x1039380000c00, 0x1049380000c00, 0x1059380000c00,
  0x1079380000c00, 0x10b9380000c00, 0x10c9380000c00, 0x110944011085b00c285b0000c00,
  0x1129380000c00, 0x1139380000c00, 0x110944011085b00c385b0000c00, 0x1149380000c00,
  0x11493b08aa4de081643808144370000c00, 0x1179380000c00, 0x11894608144370000c00, 0x1199380000c00,
  0x14b9380000c00, 0x14f9380000c00, 0x1509380000c00, 0x1539380000c00, 0x1559380000c00,
  0x15793b08aa4de081643808144370000c00, 0x1599380000c00, 0x15a9380000c00,
  0x15a93b08aa4de081643808144370000c00, 0x1829380000c00, 0x1869380000c00, 0x1879380000c00,
  0x19e9380000c00, 0x1a29380000c00, 0x1b293b08aa4de081643808144370000c00, 0x1289380000c00,
  0x16593b08aa4de081643808144370000c00, 0x16693b08aa4de081643808144370000c00,
  0x608e70d224920000c00, 0x78e703ee43b0000c00,
  0x369491a864dc277445b1c44428086a424029c41d02164110000c00,
  0x1592b17d24aa16d44a61204455124e4530e3c44f001584f0b6644e001584e106a447036a43b153843422244272222426117641f03dc41d0000c00,
  0x78e70000c00, 0xd8e70000c00, 0x1e94a22be4dc28a845b0c60425014a424001e82402ce41d02204110000c00,
  0x84054c002994b22be4dc083e4a028a845b090e4360c60425014a424002982402ce41d02204110000c00,
  0x3c2557039655603945550392554038c553038855203865510384550037e54f002f94e038054d084054c22be4dc083e4a028a845b0390439038e438038a437090e4360c60425014a42402ce41d02204110000c00,
  0x348e70000c00, 0x1c58e70000c00, 0x3f95822be4dc28a845b014a424003f82402ce41d02204110000c00,
  0x448e70000c00, 0x498e70000c00, 0x3f8e70000c00, 0x1c78e70000c00, 0x588e70000c00,
  0x3c2557039655603945550392554038c553038855203865510384550037e54f005894e038054d084054c22be4dc083e4a028a845b0390439038e438038a437090e4360c60425014a42402ce41d02204110000c00,
  0x3c2557039655603945550392554038c553038855203865510384550037e54f005394e038054d084054c22be4dc083e4a028a845b0390439038e438038a437090e4360c60425014a42402ce41d02204110000c00,
  0x658e70000c00, 0x688e70000c00,
  0x3c2557039655603945550392554038c553038855203865510384550037e54f007c94e038054d084054c22be4dc083e4a028a845b0390439038e438038a437090e4360c60425014a42402ce41d02204110000c00,
  0x7f8e70000c00, 0x818e70000c00, 0x898e70000c00, 0x8b8e70000c00, 0x8c8e70000c00, 0x1ca8e70000c00,
  0x1ce8e70000c00]

/-- The rows of actions 1024 to 1087. -/
def rows16 : Array Nat := #[
  0xa88e70000c00,
  0x3c2557039655603945550392554038c553038855203865510384550037e54f00aa94e038054d084054c22be4dc083e4a028a845b0390439038e438038a437090e4360c60425014a42402ce41d02204110000c00,
  0xab8e70000c00,
  0x3c2557039655603945550392554038c553038855203865510384550037e54f00ab94e038054d084054c22be4dc083e4a028a845b0390439038e438038a437090e4360c60425014a42402ce41d02204110000c00,
  0xac95903925540388552038054d22be4dc28a845b03904390c60425014a42402ce41d02204110000c00,
  0xb48e70000c00, 0xac95a039255422be4dc28a845b0c60425014a42400ac82402ce41d02204110000c00,
  0xac95b03945550392554038c5530388552037e54f038054d22be4dc28a845b0390439038e438038a4370c60425014a42402ce41d02204110000c00,
  0xac95c03945550392554038c55303885520384550037e54f038054d22be4dc28a845b0390439038e438038a4370c60425014a42402ce41d02204110000c00,
  0xac95d0392554038054d22be4dc28a845b03904390c60425014a42400ac82402ce41d02204110000c00,
  0xac95e039455503925540388552037e54f038054d22be4dc28a845b03904390c60425014a42402ce41d02204110000c00,
  0xac95f039455503925540388552037e54f038054d22be4dc28a845b0390439038a4370c60425014a42402ce41d02204110000c00,
  0xac96003945550392554038c5530388552037e54f038054d22be4dc28a845b0390439038a4370c60425014a42402ce41d02204110000c00,
  0xac9610392554038054d22be4dc28a845b0c60425014a42400ac82402ce41d02204110000c00,
  0xac9620392554084054c22be4dc083e4a028a845b090e4360c60425014a42400ac82402ce41d02204110000c00,
  0x793c003a8e300078e3003a8de0000c00, 0x793c003d8e300078e3003d8de0000c00,
  0xac96303925540388552037e54f038054d22be4dc28a845b03904390c60425014a42402ce41d02204110000c00,
  0xac96403945550392554038c553038855203865510384550037e54f038054d22be4dc28a845b0390439038e438038a4370c60425014a42402ce41d02204110000c00,
  0x3c2557039655603945550392554038c553038855203865510384550037e54f00b894e038054d084054c22be4dc083e4a028a845b0390439038e438038a437090e4360c60425014a42402ce41d02204110000c00,
  0x1d08e70000c00, 0x1d18e70000c00, 0xc58e70000c00, 0xca8e70000c00, 0x848e70000c00, 0xe98e70000c00,
  0xf08e70000c00, 0xf68e70000c00, 0xf78e70000c00,
  0x3c2557039655603945550392554038c553038855203865510384550037e54f00f794e038054d084054c22be4dc083e4a028a845b0390439038e438038a437090e4360c60425014a42402ce41d02204110000c00,
  0xf88e70000c00, 0xf98e70000c00,
  0x3c2557039655603945550392554038c553038855203865510384550037e54f00f994e038054d084054c22be4dc083e4a028a845b0390439038e438038a437090e4360c60425014a42402ce41d02204110000c00,
  0xfa8e70000c00, 0xfd8e70000c00,
  0x3c2557039655603945550392554038c553038855203865510384550037e54f00fe94e038054d084054c22be4dc083e4a028a845b0390439038e438038a437090e4360c60425014a42402ce41d02204110000c00,
  0x3c2557039655603945550392554038c553038855203865510384550037e54f00ff94e038054d084054c22be4dc083e4a028a845b0390439038e438038a437090e4360c60425014a42402ce41d02204110000c00,
  0x1008e70000c00, 0x1d58e70000c00, 0x1d88e70000c00,
  0x1592b17d24aa16d44a61204455124e4530d1244f001584f0b6644e001584e106a447036a43b153843422244272222426117641f03dc41d0000c00,
  0x4493c00998e300448e300998de0000c00, 0x1278e70000c00, 0x1da8e70000c00, 0x1db8e70000c00,
  0xf18e70000c00, 0x1298e70000c00, 0x1468e70000c00, 0x1df8e70000c00, 0x1e18e70000c00,
  0x3c2557039655603945550392554038c553038855203865510384550037e54f016394e038054d084054c22be4dc083e4a028a845b0390439038e438038a437090e4360c60425014a42402ce41d02204110000c00,
  0x1698e70000c00, 0x1448e70000c00, 0x1488e70000c00, 0x1678e70000c00, 0x17f8e70000c00,
  0x18e8e70000c00, 0x3293f003383b0000c00, 0x5a93f005b83b0000c00, 0x1993f001a83b0000c00,
  0x1592b17d24aa16d44a61204455124e4530d3c44f001584f0b6644e001584e106a447036a43b153843422244272222426117641f03dc41d0000c00,
  0x148e70000c00, 0x598e70000c00, 0x608e70000c00]

/-- The rows of actions 1088 to 1151. -/
def rows17 : Array Nat := #[
  0xc29650000c00, 0xc39650000c00, 0xce8e70000c00, 0xc28e70000c00, 0xc38e70000c00,
  0x1592b17d24aa16d44a61204455124e4530ddc44f001584f0b6644e001584e106a447036a43b153843422244272222426117641f03dc41d0000c00,
  0x1592b17d24aa16d44a61204455124e453124444f001584f0b6644e001584e106a447036a43b153843422244272222426117641f03dc41d0000c00,
  0x819410000c00,
  0x1596617d24aa16784a61204455120a453100e44714de43422244272222426100c41f03dc41d00344070000c00,
  0x17d2567001596614e052a18e24a612044550e4645412dc45212de44714e24312224427222242603dc41d0000c00,
  0x17d2567001596614fa52a18f24a612044550e4645412f045212f244714f84312224427222242603dc41d0000c00,
  0xf09410000c00,
  0x1c5a568001592b1d0a4a614624530e3c44f001584f0b6644e001584e036a43b153843422444272242426035641d0000c00,
  0x1592b17d24ab16d44a6124e4530e3c44f001584f0b6644e001584e036a43b153843422244272222426117641f02b041d0000c00,
  0x3396900328f1003386600328660000c00, 0x5b969005a8f1005b866005a8660000c00, 0x609410000c00,
  0x6096a0d484920000c00, 0x1a96900198f1001a86600198660000c00,
  0xb696b03c2557039655603945550392554038c553038855203865510384550037e54f038054d084054c22be4dc083e4a028a845b0390439038e438038a437090e4360c60425014a42402ce41d02204110000c00,
  0x78ec003a8e300078e3003a8de037c43b0000c00, 0xce9410000c00, 0x9196c28f845b086a42402164110000c00,
  0x9196c28fa45b086a42402164110000c00, 0x9196c28fc45b086a42402164110000c00,
  0x1c5a568001592b1d0a4a614624530d1244f001584f0b6644e001584e036a43b153843422444272242426035641d0000c00,
  0x1592b17d24ab16d44a6124e4530d1244f001584f0b6644e001584e036a43b153843422244272222426117641f02b041d0000c00,
  0x149410000c00, 0x599410000c00, 0x1896a0d3e4920000c00, 0x3b96d07fa5322ac845b086a4240000c00,
  0x1c5a568001592b1d0a4a614624530d3c44f001584f0b6644e001584e036a43b153843422444272242426035641d0000c00,
  0x1592b17d24ab16d44a6124e4530d3c44f001584f0b6644e001584e036a43b153843422244272222426117641f02b041d0000c00,
  0x1c5a568001592b1d0a4a614624530ddc44f001584f0b6644e001584e036a43b153843422444272242426035641d0000c00,
  0x1592b17d24ab16d44a6124e4530ddc44f001584f0b6644e001584e036a43b153843422244272222426117641f02b041d0000c00,
  0x1c5a568001592b1d0a4a61462453124444f001584f0b6644e001584e036a43b153843422444272242426035641d0000c00,
  0x1592b17d24ab16d44a6124e453124444f001584f0b6644e001584e036a43b153843422244272222426117641f02b041d0000c00,
  0xd96e1a864dc277445b1c44428029c41d0000c00,
  0x1e96f22be4dc277445b0fa64250144424001e824029c41d02164110000c00,
  0x78d300258660007866002583d037c43b002583b0000c00,
  0x3c2557039655603945550392554038c553038855203865510384550037e54f038054d084054c22be4dc083e4a009fc464084245c28a845b038244e0390439038e438038a437090e4360c60425014a42402ce41d02204110000c00,
  0x29970078454c22be4dc07824a0277445b09f84360fa642501444240029824029c41d02164110000c00,
  0x2f97103385570350556034e555034c554034655303425520340551033e550033654f033a54d078454c22be4dc07824a0277445b034a4390348438034443709f84360fa64250144424029c41d02164110000c00,
  0x3f97222be4dc277445b0144424003f824029c41d02164110000c00,
  0x5897103385570350556034e555034c554034655303425520340551033e550033654f033a54d078454c22be4dc07824a0277445b034a4390348438034443709f84360fa64250144424029c41d02164110000c00,
  0x5397103385570350556034e555034c554034655303425520340551033e550033654f033a54d078454c22be4dc07824a0277445b034a4390348438034443709f84360fa64250144424029c41d02164110000c00,
  0x7c97103385570350556034e555034c554034655303425520340551033e550033654f033a54d078454c22be4dc07824a0277445b034a4390348438034443709f84360fa64250144424029c41d02164110000c00,
  0xaa97103385570350556034e555034c554034655303425520340551033e550033654f033a54d078454c22be4dc07824a0277445b034a4390348438034443709f84360fa64250144424029c41d02164110000c00,
  0xab97103385570350556034e555034c554034655303425520340551033e550033654f033a54d078454c22be4dc07824a0277445b034a4390348438034443709f84360fa64250144424029c41d02164110000c00,
  0xac973034c5540342552033a54d22be4dc277445b034a4390fa64250144424029c41d02164110000c00,
  0xb19740000c00, 0xac975034c55422be4dc277445b0fa6425014442400ac824029c41d02164110000c00,
  0xac976034e555034c55403465530342552033654f033a54d22be4dc277445b034a439034843803444370fa64250144424029c41d02164110000c00,
  0xac977034e555034c55403465530342552033e550033654f033a54d22be4dc277445b034a439034843803444370fa64250144424029c41d02164110000c00,
  0xac978034c554033a54d22be4dc277445b034a4390fa6425014442400ac824029c41d02164110000c00,
  0xac979034e555034c5540342552033654f033a54d22be4dc277445b034a4390fa64250144424029c41d02164110000c00,
  0xac97a034e555034c5540342552033654f033a54d22be4dc277445b034a43903444370fa64250144424029c41d02164110000c00,
  0xac97b034e555034c55403465530342552033654f033a54d22be4dc277445b034a43903444370fa64250144424029c41d02164110000c00,
  0xac97c034c554033a54d22be4dc277445b0fa6425014442400ac824029c41d02164110000c00,
  0xac97d034c554078454c22be4dc07824a0277445b09f84360fa6425014442400ac824029c41d02164110000c00,
  0xac97e034c5540342552033654f033a54d22be4dc277445b034a4390fa64250144424029c41d02164110000c00,
  0xac97f034e555034c554034655303425520340551033e550033654f033a54d22be4dc277445b034a439034843803444370fa64250144424029c41d02164110000c00,
  0xb897103385570350556034e555034c554034655303425520340551033e550033654f033a54d078454c22be4dc07824a0277445b034a4390348438034443709f84360fa64250144424029c41d02164110000c00,
  0x17d2580001596614f252a18f04a6120445512ec45212ee44714f04312224427222242603dc41d0000c00]

/-- The rows of actions 1152 to 1215. -/
def rows18 : Array Nat := #[
  0xf797103385570350556034e555034c554034655303425520340551033e550033654f033a54d078454c22be4dc07824a0277445b034a4390348438034443709f84360fa64250144424029c41d02164110000c00,
  0xf997103385570350556034e555034c554034655303425520340551033e550033654f033a54d078454c22be4dc07824a0277445b034a4390348438034443709f84360fa64250144424029c41d02164110000c00,
  0xfe97103385570350556034e555034c554034655303425520340551033e550033654f033a54d078454c22be4dc07824a0277445b034a4390348438034443709f84360fa64250144424029c41d02164110000c00,
  0xff97103385570350556034e555034c554034655303425520340551033e550033654f033a54d078454c22be4dc07824a0277445b034a4390348438034443709f84360fa64250144424029c41d02164110000c00,
  0x1259740000c00, 0x19981008e8e300198e3008e8de001a83b0000c00,
  0x1592b1c5a4ad1d0a4a60e3c44f001584f0b6644e001584e036a43b22444272242426035641d0000c00,
  0x3298100938e300328e300938de003383b0000c00,
  0x17d25800015966151c52a190c4a6120445512fe4521300447151a4312224427222242603dc41d0000c00,
  0x1629740000c00,
  0x16397103385570350556034e555034c554034655303425520340551033e550033654f033a54d078454c22be4dc07824a0277445b034a4390348438034443709f84360fa64250144424029c41d02164110000c00,
  0x1592b17d24aa16d44a6005d871005c87100158711204455124e453106a447036a43b153843422244272222426117641f03dc41d0000c00,
  0x78d4037c43b0000c00, 0x78d3002586703ee43b002583b0000c00, 0x78d3006286703ee43b0000c00,
  0x399820000c00, 0x3b96d2ac845b086a4240000c00, 0x38983086a4240000c00,
  0x3e98428d845b02164110000c00, 0xcd8585008d8d40000c00, 0xa09820000c00,
  0x1592b1c5a4ad1d0a4a60d1244f001584f0b6644e001584e036a43b22444272242426035641d0000c00,
  0x3d98607fa5320000c00, 0x3898607fc5320000c00,
  0x1592b1c5a4ad1d0a4a60d3c44f001584f0b6644e001584e036a43b22444272242426035641d0000c00,
  0xa198800499870000c00, 0x12898607fa5320000c00, 0x10498800499870000c00, 0x3398900328d30000c00,
  0x5b989005a8d30000c00, 0x1a98900198d30000c00, 0x3a8fa00078f9003a8eb00078eb037c43b002583b0000c00,
  0x1998a008e909008e9080019908001a83b0000c00, 0x3298a009390900939080032908003383b0000c00,
  0x198f9008e8ed008e8eb00198eb008e871001a8710019871001a83b0000c00,
  0x328f900938ed00938eb00328eb009387100338710032871003383b0000c00,
  0x3c2557039655603945550392554038c553038855203865510384550037e54f038054d084054c22be4dc083e4a00730464084245c28a845b038244e0390439038e438038a437090e4360c60425014a42402ce41d02204110000c00,
  0x1592b1c5a4ad1d0a4a60ddc44f001584f0b6644e001584e036a43b22444272242426035641d0000c00,
  0x3c2557039655603945550392554038c553038855203865510384550037e54f038054d084054c22be4dc083e4a0093c464084245c28a845b038244e0390439038e438038a437090e4360c60425014a42402ce41d02204110000c00,
  0x1592b1c5a4ad1d0a4a6124444f001584f0b6644e001584e036a43b22444272242426035641d0000c00,
  0x3c2557039655603945550392554038c553038855203865510384550037e54f038054d084054c22be4dc083e4a00608464084245c28a845b038244e0390439038e438038a437090e4360c60425014a42402ce41d02204110000c00,
  0x5898b051a557043655604345550432554042c553042855204265510424550041e54f042254d078454c22be4dc07824a0277445b0430439042e438042a43709f84360fa64250150424029c41d02164110000c00,
  0x5398b051a557043655604345550432554042c553042855204265510424550041e54f042254d078454c22be4dc07824a0277445b0430439042e438042a43709f84360fa64250150424029c41d02164110000c00,
  0x7c98b051a557043655604345550432554042c553042855204265510424550041e54f042254d078454c22be4dc07824a0277445b0430439042e438042a43709f84360fa64250150424029c41d02164110000c00,
  0xaa98b051a557043655604345550432554042c553042855204265510424550041e54f042254d078454c22be4dc07824a0277445b0430439042e438042a43709f84360fa64250150424029c41d02164110000c00,
  0xab98b051a557043655604345550432554042c553042855204265510424550041e54f042254d078454c22be4dc07824a0277445b0430439042e438042a43709f84360fa64250150424029c41d02164110000c00,
  0xac98c04325540428552042254d22be4dc277445b04304390fa64250150424029c41d02164110000c00,
  0xac98d043255422be4dc277445b0fa6425015042400ac824029c41d02164110000c00,
  0xac98e04345550432554042c5530428552041e54f042254d22be4dc277445b0430439042e438042a4370fa64250150424029c41d02164110000c00,
  0xac98f04345550432554042c55304285520424550041e54f042254d22be4dc277445b0430439042e438042a4370fa64250150424029c41d02164110000c00,
  0xac9900432554042254d22be4dc277445b04304390fa6425015042400ac824029c41d02164110000c00,
  0xac991043455504325540428552041e54f042254d22be4dc277445b04304390fa64250150424029c41d02164110000c00,
  0xac992043455504325540428552041e54f042254d22be4dc277445b0430439042a4370fa64250150424029c41d02164110000c00,
  0xac99304345550432554042c5530428552041e54f042254d22be4dc277445b0430439042a4370fa64250150424029c41d02164110000c00,
  0xac9940432554042254d22be4dc277445b0fa6425015042400ac824029c41d02164110000c00,
  0xac9950432554078454c22be4dc07824a0277445b09f84360fa6425015042400ac824029c41d02164110000c00,
  0xac99604325540428552041e54f042254d22be4dc277445b04304390fa64250150424029c41d02164110000c00,
  0xac99704345550432554042c553042855204265510424550041e54f042254d22be4dc277445b0430439042e438042a4370fa64250150424029c41d02164110000c00,
  0xb898b051a557043655604345550432554042c553042855204265510424550041e54f042254d078454c22be4dc07824a0277445b0430439042e438042a43709f84360fa64250150424029c41d02164110000c00,
  0xf798b051a557043655604345550432554042c553042855204265510424550041e54f042254d078454c22be4dc07824a0277445b0430439042e438042a43709f84360fa64250150424029c41d02164110000c00,
  0xf998b051a557043655604345550432554042c553042855204265510424550041e54f042254d078454c22be4dc07824a0277445b0430439042e438042a43709f84360fa64250150424029c41d02164110000c00,
  0xfe98b051a557043655604345550432554042c553042855204265510424550041e54f042254d078454c22be4dc07824a0277445b0430439042e438042a43709f84360fa64250150424029c41d02164110000c00,
  0xff98b051a557043655604345550432554042c553042855204265510424550041e54f042254d078454c22be4dc07824a0277445b0430439042e438042a43709f84360fa64250150424029c41d02164110000c00,
  0x16398b051a557043655604345550432554042c553042855204265510424550041e54f042254d078454c22be4dc07824a0277445b0430439042e438042a43709f84360fa64250150424029c41d02164110000c00]

/-- The rows of actions 1216 to 1279. -/
def rows19 : Array Nat := #[
  0x1e99822be4dc277445b0fa64250150424001e824029c41d02164110000c00,
  0x29999078454c22be4dc07824a0277445b09f84360fa642501504240029824029c41d02164110000c00,
  0x2f98b051a557043655604345550432554042c553042855204265510424550041e54f042254d078454c22be4dc07824a0277445b0430439042e438042a43709f84360fa64250150424029c41d02164110000c00,
  0x3f99a22be4dc277445b0150424003f824029c41d02164110000c00,
  0x3385570350556034e555034c554034655303425520340551033e550033654f033a54d078454c22be4dc07824a0062049e277445b033c44e034a4390348438034443709f84360fa64250144424029c41d02164110000c00,
  0xd99b1c444280000c00, 0x1d964ad2a0a4a61a8c44f0fb244e033044122444272242426020441d0f544070000c00,
  0x3385570350556034e555034c554034655303425520340551033e550033654f033a54d078454c22be4dc07824a0063e49e277445b033c44e034a4390348438034443709f84360fa64250144424029c41d02164110000c00,
  0x3385570350556034e555034c554034655303425520340551033e550033654f033a54d078454c22be4dc07824a0064049e277445b033c44e034a4390348438034443709f84360fa64250144424029c41d02164110000c00,
  0x32917003383b0000c00, 0x4c99c02164110000c00, 0x5a917005b83b0000c00,
  0x6399d03c2557039655603945550392554038c553038855203865510384550037e54f038054d084054c22be4dc083e4a028a845b0390439038e438038a437090e4360c60425014a42402ce41d02204110000c00,
  0x19917001a83b0000c00,
  0x1599e1c5a4aa1c5c4a614a4455143a4530e3c44f0b6644e1424447036a43b14d643422444272242426142241f035641d0000c00,
  0x1596617d24ab16784a6120a45314de43414e043122244272222426100c41f02b041d0000c00,
  0x1c9a0001599f0000c00, 0x8c99c02164110000c00, 0xb591700388de0000c00,
  0xb59a108a44de07da43807d84370000c00, 0x7981003a8e300078e3003a8de0000c00,
  0x7981003d8e300078e3003d8de0000c00, 0x7902003a8e300078e3003a8de033443b0000c00,
  0xb79a108a44de07da43807d84370000c00,
  0x3385570350556034e555034c554034655303425520340551033e550033654f033a54d078454c22be4dc07824a0065249e277445b00c484f005384e00c484e034a4390348438034443709f84360fa64250144424029c41d02164110000c00,
  0x3385570350556034e555034c554034655303425520340551033e550033654f033a54d078454c22be4dc07824a0005389e277445b00c484f005384e00c484e034a4390348438034443709f84360fa64250144424029c41d02164110000c00,
  0x3385570350556034e555034c554034655303425520340551033e550033654f033a54d078454c22be4dc07824a000aa89e277445b00c484f00aa84e00c484e034a4390348438034443709f84360fa64250144424029c41d02164110000c00,
  0x3385570350556034e555034c554034655303425520340551033e550033654f033a54d078454c22be4dc07824a000aa89e277445b00c984f00aa84e00c984e034a4390348438034443709f84360fa64250144424029c41d02164110000c00,
  0x1596617d24aa16844a61204455120e453105644714ee43422244272222426105441f03dc41d0000c00,
  0x1596617d24ab16844a6120e45314ee43414f243122244272222426105441f03dc41d0000c00,
  0x1596617d24aa16884a612044551202453105844715444342224427222242610aa41f03dc41d0000c00,
  0x1596617d24ab168a4a61202453154443414f64312224427222242610aa41f03dc41d0000c00,
  0x1592f17d24aa16ce4a612044551212453105e447150243422244272222426105c41f03dc41d0000c00,
  0x269a200078f9003d8eb00078eb003d8de003d86400268640000c00,
  0x3a90300078f900258f6003a8eb00078eb03ee43b002583b0000c00, 0x79a323544dc009189c283045b0000c00,
  0x7981009789c0000c00, 0x4498100998e300448e300998de0000c00, 0x4991700a18de0000c00,
  0x1596617d24aa16964a612044551208453108644715464342224427222242610b241f03dc41d0000c00,
  0x1596617d24ab16984a61208453154643415184312224427222242610b241f03dc41d0000c00,
  0x1592f17d24aa16da4a612044551218453108c447152043422244272222426108a41f03dc41d0000c00,
  0x719a200078f9003d8eb00078eb003d8de0071864003d8640000c00,
  0x1c5a568001592b1d0a4a6005d871005c87100158711462453036a43b153843422444272242426035641d0000c00,
  0x1592b17d24ab16d44a6005d871005c8710015871124e453036a43b153843422244272222426117641f02b041d0000c00,
  0x1592f17d24aa16e04a612044551250453108e447153a43422244272222426117a41f03dc41d0000c00,
  0x4991701048de0000c00,
  0x3385570350556034e555034c554034655303425520340551033e550033654f033a54d078454c22be4dc07824a0203a49e00c4871277445b034a4390348438034443709f84360fa64250144424029c41d02164110000c00,
  0x199a500189a405a8492001a83b0000c00,
  0x1599e1c5a4aa1c5c4a614a4455143a4530d3c44f0b6644e1424447036a43b14d643422444272242426142241f035641d0000c00,
  0x379860000c00, 0x389860000c00, 0x3a9860000c00, 0x3d9860000c00, 0x3e9a628da45b0000c00,
  0x3e9860000c00, 0x3e9a7075e41d0000c00, 0x8e9860000c00, 0x919a628f845b0000c00,
  0x919a628fe45b0000c00, 0x919860000c00,
  0x2696900078f900268f800078f8003d8eb00078eb003d8de003d864002686400078640000c00,
  0x3a90300078f900258f800078f8003a8eb00078eb002583d037c43b002583b0000c00, 0x939860000c00]

/-- The rows of actions 1280 to 1343. -/
def rows20 : Array Nat := #[
  0x959860000c00, 0x969a807d84370000c00, 0x979860000c00, 0x999860000c00, 0x9a9860000c00,
  0x9c9a108a44de07da43807d84370000c00, 0x9d9a9003e947075e41d0000c00, 0x9e91707e24de0000c00,
  0x9f9a7075e41d0000c00, 0xa19860000c00, 0xa29860000c00, 0xa39860000c00, 0x1039860000c00,
  0x1049860000c00, 0x1059860000c00, 0x1079860000c00, 0x10b9860000c00, 0x10c9860000c00,
  0x1109a6011085b00c285b0000c00, 0x1129860000c00, 0x1139860000c00, 0x1109a6011085b00c385b0000c00,
  0x1149860000c00, 0x1149a108a44de07da43807d84370000c00, 0x1179860000c00, 0x1189a807d84370000c00,
  0x1199860000c00, 0x1159860000c00, 0x14b9860000c00, 0x14f9860000c00, 0x1509860000c00,
  0x1539860000c00, 0x1559860000c00, 0x1579a108a44de07da43807d84370000c00, 0x1599860000c00,
  0x15a9860000c00, 0x15a9a108a44de07da43807d84370000c00, 0x1589860000c00, 0x1829860000c00,
  0x1869860000c00, 0x1879860000c00, 0x19e9860000c00, 0x1a29860000c00,
  0x1b29a108a44de07da43807d84370000c00, 0x189aa0d3e492001a83b0000c00,
  0x1599e1c5a4aa1c5c4a614a4455143a4530d1244f0b6644e1424447036a43b14d643422444272242426142241f035641d0000c00,
  0x798a003d909003d90800079080000c00,
  0x41e5ac00d59ab051a557043655604345550432554042c553042855204265510424550042254d078454c22be4dc07824a0041e46d00d586d277445b0430439042e438042a43709f84360fa64250150424029c41d02164110000c00,
  0x1a9a200198f9008e8eb00198eb008e8de008e864001a8640000c00,
  0x339a200328f900938eb00328eb00938de009386400338640000c00, 0x1289860000c00,
  0x1659a108a44de07da43807d84370000c00, 0x1669a108a44de07da43807d84370000c00,
  0x1599e1c5a4aa1c5c4a614a4455143a4530ddc44f0b6644e1424447036a43b14d643422444272242426142241f035641d0000c00,
  0x798a003a909003a90800079080000c00, 0x79ad26e64dc0091897293845b0000c00, 0x78f900978970000c00,
  0x4498a0099909009990800449080000c00,
  0x1599e1c5a4aa1c5c4a614a4455143a453123044f0b6644e1424447036a43b14d643422444272242426142241f035641d0000c00,
  0x1a96900198f9001a8f800198f8008e8eb00198eb008e8de008e864001a86400198640000c00,
  0x3396900328f900338f800328f800938eb00328eb00938de0093864003386400328640000c00,
  0x499ae00a18ed0000c00, 0x499ae01048ed0000c00,
  0x1599e1c5a4aa1c5c4a614a4455143a453131044f0b6644e1424447036a43b14d643422444272242426142241f035641d0000c00]

/-- The rows of actions 1344 to 1407. -/
def rows21 : Array Nat := #[
  0x1a9af008e92100198f9008e8eb00198eb008e86f001a86f001986f0000c00,
  0x339af009392100328f900938eb00328eb009386f003386f003286f0000c00,
  0x3a9b000079b000078f9003a8ed0000c00, 0x999b000449b000448f900998ed0000c00,
  0x3d9b000079b000078f9003d8ed0000c00, 0x791703ee43b0000c00,
  0x20ea4ad2a0a4a6201c44f0fb244e033044122444272242426020441d0f544070000c00,
  0x790b003a8e300078e3003a8de041c43b0000c00,
  0x589b1050a55704f855604f655504f455404ee55304ea55204e855104e655004e254f04e454d084054c22be4dc083e4a028a845b04f243904f043804ec437090e4360c60425015642402ce41d02204110000c00,
  0x539b1050a55704f855604f655504f455404ee55304ea55204e855104e655004e254f04e454d084054c22be4dc083e4a028a845b04f243904f043804ec437090e4360c60425015642402ce41d02204110000c00,
  0x7c9b1050a55704f855604f655504f455404ee55304ea55204e855104e655004e254f04e454d084054c22be4dc083e4a028a845b04f243904f043804ec437090e4360c60425015642402ce41d02204110000c00,
  0xaa9b1050a55704f855604f655504f455404ee55304ea55204e855104e655004e254f04e454d084054c22be4dc083e4a028a845b04f243904f043804ec437090e4360c60425015642402ce41d02204110000c00,
  0xab9b1050a55704f855604f655504f455404ee55304ea55204e855104e655004e254f04e454d084054c22be4dc083e4a028a845b04f243904f043804ec437090e4360c60425015642402ce41d02204110000c00,
  0xac9b204f455404ea55204e454d22be4dc28a845b04f24390c60425015642402ce41d02204110000c00,
  0xac9b304f455422be4dc28a845b0c60425015642400ac82402ce41d02204110000c00,
  0xac9b404f655504f455404ee55304ea55204e254f04e454d22be4dc28a845b04f243904f043804ec4370c60425015642402ce41d02204110000c00,
  0xac9b504f655504f455404ee55304ea55204e655004e254f04e454d22be4dc28a845b04f243904f043804ec4370c60425015642402ce41d02204110000c00,
  0xac9b604f455404e454d22be4dc28a845b04f24390c60425015642400ac82402ce41d02204110000c00,
  0xac9b704f655504f455404ea55204e254f04e454d22be4dc28a845b04f24390c60425015642402ce41d02204110000c00,
  0xac9b804f655504f455404ea55204e254f04e454d22be4dc28a845b04f243904ec4370c60425015642402ce41d02204110000c00,
  0xac9b904f655504f455404ee55304ea55204e254f04e454d22be4dc28a845b04f243904ec4370c60425015642402ce41d02204110000c00,
  0xac9ba04f455404e454d22be4dc28a845b0c60425015642400ac82402ce41d02204110000c00,
  0xac9bb04f4554084054c22be4dc083e4a028a845b090e4360c60425015642400ac82402ce41d02204110000c00,
  0xac9bc04f455404ea55204e254f04e454d22be4dc28a845b04f24390c60425015642402ce41d02204110000c00,
  0xac9bd04f655504f455404ee55304ea55204e855104e655004e254f04e454d22be4dc28a845b04f243904f043804ec4370c60425015642402ce41d02204110000c00,
  0xb89b1050a55704f855604f655504f455404ee55304ea55204e855104e655004e254f04e454d084054c22be4dc083e4a028a845b04f243904f043804ec437090e4360c60425015642402ce41d02204110000c00,
  0xf79b1050a55704f855604f655504f455404ee55304ea55204e855104e655004e254f04e454d084054c22be4dc083e4a028a845b04f243904f043804ec437090e4360c60425015642402ce41d02204110000c00,
  0xf99b1050a55704f855604f655504f455404ee55304ea55204e855104e655004e254f04e454d084054c22be4dc083e4a028a845b04f243904f043804ec437090e4360c60425015642402ce41d02204110000c00,
  0xfe9b1050a55704f855604f655504f455404ee55304ea55204e855104e655004e254f04e454d084054c22be4dc083e4a028a845b04f243904f043804ec437090e4360c60425015642402ce41d02204110000c00,
  0xff9b1050a55704f855604f655504f455404ee55304ea55204e855104e655004e254f04e454d084054c22be4dc083e4a028a845b04f243904f043804ec437090e4360c60425015642402ce41d02204110000c00,
  0x1639b1050a55704f855604f655504f455404ee55304ea55204e855104e655004e254f04e454d084054c22be4dc083e4a028a845b04f243904f043804ec437090e4360c60425015642402ce41d02204110000c00,
  0x1e9be22be4dc28a845b0c604250156424001e82402ce41d02204110000c00,
  0x299bf084054c22be4dc083e4a028a845b090e4360c604250156424002982402ce41d02204110000c00,
  0x2f9b1050a55704f855604f655504f455404ee55304ea55204e855104e655004e254f04e454d084054c22be4dc083e4a028a845b04f243904f043804ec437090e4360c60425015642402ce41d02204110000c00,
  0x3f9c022be4dc28a845b0156424003f82402ce41d02204110000c00, 0x79170000c00, 0x78d6033443b0000c00,
  0xd9170000c00, 0x1b9c100078a7001b8a200078a20000c00, 0x2696900078d3002683c000783c0000c00,
  0x3c2557039655603945550392554038c553038855203865510384550037e54f038054d084054c22be4dc083e4a028a845b0fc4459021844e0390439038e438038a437090e4360c60425014a42402ce41d02204110000c00,
  0x349170000c00, 0x1c59170000c00, 0x449170000c00, 0x499170000c00, 0x3f9170000c00, 0x1c79170000c00,
  0x3385570350556034e555034c554034655303425520340551033e550033654f033a54d078454c22be4dc07824a0065249e277445b005384e034a4390348438034443709f84360fa64250144424029c41d02164110000c00,
  0x589170000c00,
  0x3c2557039655603945550392554038c553038855203865510384550037e54f038054d084054c22be4dc083e4a028a845b0ff4459021844e0390439038e438038a437090e4360c60425014a42402ce41d02204110000c00,
  0x21b04ad2a0a4a60017871033044122444272242426020441d0f544070000c00, 0x659170000c00,
  0x1599e1c5a5681c5c4a6143a4530e3c44f0b6644e036a43b14d643422444272242426035641d0000c00,
  0x1599e1c5a4ab1c5c4a6143a4530e3c44f0b6644e036a43b14d643422444272242426142241f035641d0000c00,
  0x689170000c00,
  0x3c2557039655603945550392554038c553038855203865510384550037e54f038054d084054c22be4dc083e4a028a845b038244e0390439038e438038a437090e4360c60425014a42402ce41d026a41202204110000c00,
  0x719c200078d30000c00,
  0x3c2557039655603945550392554038c553038855203865510384550037e54f038054d084054c22be4dc083e4a0007d89b28a845b0390439038e438038a437090e4360c60425014a42402ce41d02204110000c00,
  0x7f9170000c00, 0x1c5a56800159661c804a6143e45314de43422444272242426035641d0000c00,
  0x869c3050a55704f855604f655504f455404ee55304ea55204e855104e655004e254f04e454d084054c22be4dc083e4a028a845b04f243904f043804ec437090e4360c60425015642402ce41d02204110000c00,
  0x899170000c00, 0x8b9170000c00, 0x8c9170000c00]

/-- The rows of actions 1408 to 1471. -/
def rows22 : Array Nat := #[
  0x1024585008d8d60000c00, 0x1ca9170000c00, 0x1ce9170000c00,
  0x3c2557039655603945550392554038c553038855203865510384550037e54f038054d084054c22be4dc083e4a028a845b21c644f038244e0390439038e438038a437090e4360c60425014a42402ce41d02204110000c00,
  0xa89170000c00, 0xab9170000c00,
  0x3c2557039655603945550392554038c553038855203865510384550037e54f038054d084054c22be4dc083e4a00daa46428a845b021844e0390439038e438038a437090e4360c60425014a42402ce41d02204110000c00,
  0xb49170000c00,
  0xb69c403385570350556034e555034c554034655303425520340551033e550033654f033a54d078454c22be4dc07824a0277445b034a4390348438034443709f84360fa64250144424029c41d02164110000c00,
  0x3c2557039655603945550392554038c553038855203865510384550037e54f038054d084054c22be4dc083e4a028a845b0a0a459038244e0390439038e438038a437090e4360c60425014a42402ce41d02204110000c00,
  0x3c2557039655603945550392554038c553038855203865510384550037e54f038054d084054c22be4dc083e4a028a845b1de844f038244e0390439038e438038a437090e4360c60425014a42402ce41d02204110000c00,
  0x1d09170000c00, 0x1d19170000c00, 0xc59170000c00, 0xc79c1007f8a700c78a2007f8a20000c00,
  0xca9170000c00, 0x849170000c00,
  0x1abc52c1aa44a614144551412454138445311fa452282444f11e044e12e4447036644114d44342244427224242612e241f035641d0000c00,
  0xd59c403385570350556034e555034c554034655303425520340551033e550033654f033a54d078454c22be4dc07824a0277445b034a4390348438034443709f84360fa64250144424029c41d02164110000c00,
  0x3c2557039655603945550392554038c553038855203865510384550037e54f038054d084054c22be4dc083e4a028a845b038244e0390439038e438038a437090e4360c60425014a42402ce41d027a41202204110000c00,
  0xe29c200078d30000c00, 0xe99170000c00,
  0x3c2557039655603945550392554038c553038855203865510384550037e54f038054d084054c22be4dc083e4a000eb86b28a845b0390439038e438038a437090e4360c60425014a42402ce41d02204110000c00,
  0x1c5a56800159661c984a6144445314ee43422444272242426035641d0000c00,
  0x1596617d24ab16844a6120e45314ee43422244272222426105441f03dc41d0000c00,
  0x1c5a56800159661d584a6146c453154443422444272242426035641d0000c00,
  0x1c5a568001592f1c9e4a6144a453150243422444272242426035641d0000c00,
  0x1592f17d24ab16ce4a61212453150243422244272222426105c41f02b041d0000c00, 0xf69170000c00,
  0xf79170000c00, 0xf89170000c00, 0xf99170000c00, 0xfa9170000c00, 0xfd9170000c00, 0x1009170000c00,
  0x1d59170000c00, 0x1d89170000c00,
  0x3c2557039655603945550392554038c553038855203865510384550037e54f038054d084054c22be4dc083e4a028a845b0a0e459038244e0390439038e438038a437090e4360c60425014a42402ce41d02204110000c00,
  0x1279170000c00, 0x1da9170000c00, 0x1db9170000c00, 0xf19170000c00, 0x1299170000c00,
  0x3c2557039655603945550392554038c553038855203865510384550037e54f038054d084054c22be4dc083e4a0001845c28a845b038244e0390439038e438038a437090e4360c60425014a42402ce41d02204110000c00,
  0x3c2557039655603945550392554038c553038855203865510384550037e54f038054d084054c22be4dc083e4a0072046428a845b038244e0390439038e438038a437090e4360c60425014a42402ce41d02204110000c00,
  0x3c2557039655603945550392554038c553038855203865510384550037e54f038054d084054c22be4dc083e4a0072246428a845b038244e0390439038e438038a437090e4360c60425014a42402ce41d02204110000c00,
  0x3c2557039655603945550392554038c553038855203865510384550037e54f038054d084054c22be4dc083e4a0005246428a845b038244e0390439038e438038a437090e4360c60425014a42402ce41d02204110000c00,
  0x3c2557039655603945550392554038c553038855203865510384550037e54f038054d084054c22be4dc083e4a028a845b038244e0390439038e438038a437090e4360c60425014a42402ce41d027e41202204110000c00,
  0x13c9c200078d30000c00, 0x1c5a56800159661cae4a6144e453150643422444272242426035641d0000c00,
  0x1596617d24ab16904a61216453150643422244272222426108041f03dc41d0000c00,
  0x1596617d24ab16924a6120845315464342224427222242610b241f03dc41d0000c00,
  0x1596617d24ab169c4a6120845315464342224427222242610b241f03dc41d0000c00,
  0x1c5a568001592f1cb44a61452453152043422444272242426035641d0000c00,
  0x1592f17d24ab16da4a61218453152043422244272222426108a41f03dc41d0000c00,
  0x3a90400078f9003a8eb00078eb006285c03ee43b0000c00, 0x1469170000c00, 0x1df9170000c00,
  0x1e19170000c00, 0x1592b1c5a4ad1d0a4a6005d871005c8710015871036a43b22444272242426035641d0000c00,
  0x1592f17d24ab16e04a61250453153a43422244272222426117a41f03dc41d0000c00, 0x1699170000c00,
  0x1449170000c00, 0x1489170000c00]

/-- The rows of actions 1472 to 1535. -/
def rows23 : Array Nat := #[
  0x1679170000c00,
  0x3c2557039655603945550392554038c553038855203865510384550037e54f038054d084054c22be4dc083e4a0072446428a845b038244e0390439038e438038a437090e4360c60425014a42402ce41d02204110000c00,
  0x3c2557039655603945550392554038c553038855203865510384550037e54f038054d084054c22be4dc083e4a0005846428a845b038244e0390439038e438038a437090e4360c60425014a42402ce41d02204110000c00,
  0x3c2557039655603945550392554038c553038855203865510384550037e54f038054d084054c22be4dc083e4a0005a46428a845b038244e0390439038e438038a437090e4360c60425014a42402ce41d02204110000c00,
  0x1789c200078d30000c00, 0x1c5a56800159661cc24a61456453152443422444272242426035641d0000c00,
  0x1596617d24ab169e4a6121a453152443422244272222426109c41f03dc41d0000c00,
  0x1596617d24ab16a04a6120c45315484342224427222242610be41f03dc41d0000c00,
  0x1596617d24ab16a24a6120c45315484342224427222242610be41f03dc41d0000c00,
  0x1596617d24ab16a64a6120c45315484342224427222242610be41f03dc41d0000c00,
  0x1c5a568001592f1cc64a61458453152e43422444272242426035641d0000c00,
  0x1592f17d24ab16e24a6121c453152e4342224427222242610a041f03dc41d0000c00,
  0x1592f17d24ab16e44a61252453153c43422244272222426118041f03dc41d0000c00, 0x17f9170000c00,
  0x18e9170000c00,
  0x3c2557039655603945550392554038c553038855203865510384550037e54f038054d084054c22be4dc083e4a0072646428a845b038244e0390439038e438038a437090e4360c60425014a42402ce41d02204110000c00,
  0x3c2557039655603945550392554038c553038855203865510384550037e54f038054d084054c22be4dc083e4a0072a46428a845b038244e0390439038e438038a437090e4360c60425014a42402ce41d02204110000c00,
  0x3c2557039655603945550392554038c553038855203865510384550037e54f038054d084054c22be4dc083e4a0072e46428a845b038244e0390439038e438038a437090e4360c60425014a42402ce41d02204110000c00,
  0x3c2557039655603945550392554038c553038855203865510384550037e54f038054d084054c22be4dc083e4a0005e46428a845b038244e0390439038e438038a437090e4360c60425014a42402ce41d02204110000c00,
  0x1c5a56800159661cce4a6145a453153043422444272242426035641d0000c00,
  0x1596617d24ab16a84a61214453154a4342224427222242610cc41f03dc41d0000c00,
  0x1c5a568001592f1cd04a6145c453153243422444272242426035641d0000c00,
  0x1592f17d24ab16e64a6121e45315324342224427222242610a641f03dc41d0000c00,
  0x1592f17d24ab16e84a61254453153e43422244272222426118441f03dc41d0000c00,
  0x1c5a568001592f1cd84a6145e453153443422444272242426035641d0000c00, 0x269c200078d30000c00,
  0x1c5a56800159661d5c4a6146e453154643422444272242426035641d0000c00,
  0x1599e1c5a5681c5c4a6143a4530d3c44f0b6644e036a43b14d643422444272242426035641d0000c00,
  0x1599e1c5a4ab1c5c4a6143a4530d3c44f0b6644e036a43b14d643422444272242426142241f035641d0000c00,
  0x849a500859a4066e4920000c00, 0x1c5a56800159661d664a61470453154843422444272242426035641d0000c00,
  0xd59c503c2557039655603945550392554038c553038855203865510384550037e54f038054d084054c22be4dc083e4a028a845b0390439038e438038a437090e4360c60425014a42402ce41d02204110000c00,
  0xf19a500f29a4069c4920000c00, 0xf19a500f29a4069e4920000c00, 0xf89a500fc9a406a84920000c00,
  0x1299a5012a9a406b84920000c00, 0x1c5a56800159661d684a61472453154a43422444272242426035641d0000c00,
  0x1449a501439a406c44920000c00,
  0x78f9003a8eb00078eb003a8de006286f003a86f000786f006285c037c43b0000c00,
  0x1489a501499a406c84920000c00, 0x1469a5014a9a406ca4920000c00, 0x1679a501689a406d64920000c00,
  0x1679a501689a406d84920000c00, 0x1c5a56800159661d6a4a61474453154c43422444272242426035641d0000c00,
  0x17f9a501809a406e44920000c00, 0x18e9a5018d9a406ec4920000c00,
  0x1599e1c5a5681c5c4a6143a4530d1244f0b6644e036a43b14d643422444272242426035641d0000c00,
  0x1599e1c5a4ab1c5c4a6143a4530d1244f0b6644e036a43b14d643422444272242426142241f035641d0000c00,
  0x859c600848d30000c00, 0x3a9c8003a9c700079c700078f90000c00, 0xf29c600f18d30000c00,
  0x3a91200078f9003a8eb00078eb037c43b002583b0000c00, 0xfc9c900f88d3206e4920000c00,
  0x79ca00918ef23544dc283045b0000c00, 0x79cb00978ef0000c00, 0x999c800999c700449c700448f90000c00,
  0x12a9c601298d30000c00, 0x1439c601448d30000c00, 0x1499c901488d320884920000c00,
  0x14a9c901468d3208a4920000c00, 0x1689c601678d30000c00, 0x1809c9017f8d3209c4920000c00,
  0x18d9c6018e8d30000c00,
  0x1599e1c5a5681c5c4a6143a4530ddc44f0b6644e036a43b14d643422444272242426035641d0000c00]

/-- The rows of actions 1536 to 1599. -/
def rows24 : Array Nat := #[
  0x1599e1c5a4ab1c5c4a6143a4530ddc44f0b6644e036a43b14d643422444272242426142241f035641d0000c00,
  0x1024585008d8d70000c00, 0x7914003a909003a908000790803be43b0000c00,
  0x1599e1c5a5681c5c4a6143a453123044f0b6644e036a43b14d643422444272242426035641d0000c00,
  0x1599e1c5a4ab1c5c4a6143a453123044f0b6644e036a43b14d643422444272242426142241f035641d0000c00,
  0x3a9cc00079cc00079cb003a8de0000c00, 0x999cc00449cc00449cb00998de0000c00,
  0x1599e1c5a5681c5c4a6143a453131044f0b6644e036a43b14d643422444272242426035641d0000c00,
  0x1599e1c5a4ab1c5c4a6143a453131044f0b6644e036a43b14d643422444272242426142241f035641d0000c00,
  0x1592b001c8b10e3c44f001584f0b6644e001584e036a43b0000c00,
  0x1592b001d8b10e3c44f001584f0b6644e001584e036a43b0000c00,
  0x19914008e909008e9080019908001a83b0000c00, 0x32914009390900939080032908003383b0000c00,
  0x1592b001c8b10d1244f001584f0b6644e001584e036a43b0000c00,
  0x1592b001d8b10d1244f001584f0b6644e001584e036a43b0000c00,
  0x1a9af008e90400198f9008e8eb00198eb0000c00, 0x339af009390400328f900938eb00328eb0000c00,
  0x1592b001c8b10ddc44f001584f0b6644e001584e036a43b0000c00,
  0x1592b001d8b10ddc44f001584f0b6644e001584e036a43b0000c00,
  0x1592b001c8b10d3c44f001584f0b6644e001584e036a43b0000c00,
  0x1592b001d8b10d3c44f001584f0b6644e001584e036a43b0000c00,
  0x1592b001c8b1124444f001584f0b6644e001584e036a43b0000c00,
  0x1592b001d8b1124444f001584f0b6644e001584e036a43b0000c00,
  0x3c2557039655603945550392554038c553038855203865510384550037e54f038054d084054c22be4dc083e4a028a845b0c72459021844e0390439038e438038a437090e4360c60425014a42402ce41d02204110000c00,
  0x589cd051655703d855603d655503d455403ce55303ca55203c855103c655003c054f03c454d078454c22be4dc07824a0277445b03d243903d043803cc43709f84360fa6425014c424029c41d02164110000c00,
  0x539cd051655703d855603d655503d455403ce55303ca55203c855103c655003c054f03c454d078454c22be4dc07824a0277445b03d243903d043803cc43709f84360fa6425014c424029c41d02164110000c00,
  0x7c9cd051655703d855603d655503d455403ce55303ca55203c855103c655003c054f03c454d078454c22be4dc07824a0277445b03d243903d043803cc43709f84360fa6425014c424029c41d02164110000c00,
  0xaa9cd051655703d855603d655503d455403ce55303ca55203c855103c655003c054f03c454d078454c22be4dc07824a0277445b03d243903d043803cc43709f84360fa6425014c424029c41d02164110000c00,
  0xab9cd051655703d855603d655503d455403ce55303ca55203c855103c655003c054f03c454d078454c22be4dc07824a0277445b03d243903d043803cc43709f84360fa6425014c424029c41d02164110000c00,
  0xac9ce03d455403ca55203c454d22be4dc277445b03d24390fa6425014c424029c41d02164110000c00,
  0x3c2557039655603945550392554038c553038855203865510384550037e54f038054d084054c22be4dc083e4a00b6c46428a845b021844e0390439038e438038a437090e4360c60425014a42402ce41d02204110000c00,
  0xac9cf03d455422be4dc277445b0fa6425014c42400ac824029c41d02164110000c00,
  0x3c2557039655603945550392554038c553038855203865510384550037e54f038054d084054c22be4dc083e4a028a845b0918459038244e0390439038e438038a437090e4360c60425014a42402ce41d02204110000c00,
  0xac9d003d655503d455403ce55303ca55203c054f03c454d22be4dc277445b03d243903d043803cc4370fa6425014c424029c41d02164110000c00,
  0xac9d103d655503d455403ce55303ca55203c655003c054f03c454d22be4dc277445b03d243903d043803cc4370fa6425014c424029c41d02164110000c00,
  0xac9d203d455403c454d22be4dc277445b03d24390fa6425014c42400ac824029c41d02164110000c00,
  0xac9d303d655503d455403ca55203c054f03c454d22be4dc277445b03d24390fa6425014c424029c41d02164110000c00,
  0xac9d403d655503d455403ca55203c054f03c454d22be4dc277445b03d243903cc4370fa6425014c424029c41d02164110000c00,
  0xac9d503d655503d455403ce55303ca55203c054f03c454d22be4dc277445b03d243903cc4370fa6425014c424029c41d02164110000c00,
  0xac9d603d455403c454d22be4dc277445b0fa6425014c42400ac824029c41d02164110000c00,
  0xac9d703d4554078454c22be4dc07824a0277445b09f84360fa6425014c42400ac824029c41d02164110000c00,
  0xac9d803d455403ca55203c054f03c454d22be4dc277445b03d24390fa6425014c424029c41d02164110000c00,
  0xac9d903d655503d455403ce55303ca55203c855103c655003c054f03c454d22be4dc277445b03d243903d043803cc4370fa6425014c424029c41d02164110000c00,
  0xb89cd051655703d855603d655503d455403ce55303ca55203c855103c655003c054f03c454d078454c22be4dc07824a0277445b03d243903d043803cc43709f84360fa6425014c424029c41d02164110000c00,
  0x3c2557039655603945550392554038c553038855203865510384550037e54f038054d084054c22be4dc083e4a028a845b205444f038244e0390439038e438038a437090e4360c60425014a42402ce41d02204110000c00,
  0xf79cd051655703d855603d655503d455403ce55303ca55203c855103c655003c054f03c454d078454c22be4dc07824a0277445b03d243903d043803cc43709f84360fa6425014c424029c41d02164110000c00,
  0xf99cd051655703d855603d655503d455403ce55303ca55203c855103c655003c054f03c454d078454c22be4dc07824a0277445b03d243903d043803cc43709f84360fa6425014c424029c41d02164110000c00,
  0xfe9cd051655703d855603d655503d455403ce55303ca55203c855103c655003c054f03c454d078454c22be4dc07824a0277445b03d243903d043803cc43709f84360fa6425014c424029c41d02164110000c00,
  0xff9cd051655703d855603d655503d455403ce55303ca55203c855103c655003c054f03c454d078454c22be4dc07824a0277445b03d243903d043803cc43709f84360fa6425014c424029c41d02164110000c00,
  0x3c2557039655603945550392554038c553038855203865510384550037e54f038054d084054c22be4dc083e4a028a845b0920459038244e0390439038e438038a437090e4360c60425014a42402ce41d02204110000c00,
  0x1639cd051655703d855603d655503d455403ce55303ca55203c855103c655003c054f03c454d078454c22be4dc07824a0277445b03d243903d043803cc43709f84360fa6425014c424029c41d02164110000c00,
  0x3c2557039655603945550392554038c553038855203865510384550037e54f038054d084054c22be4dc083e4a0075a46428a845b021844e0390439038e438038a437090e4360c60425014a42402ce41d02204110000c00,
  0x3c2557039655603945550392554038c553038855203865510384550037e54f038054d084054c22be4dc083e4a0170e46428a845b021844e0390439038e438038a437090e4360c60425014a42402ce41d02204110000c00,
  0x3c2557039655603945550392554038c553038855203865510384550037e54f038054d084054c22be4dc083e4a0131846428a845b021844e0390439038e438038a437090e4360c60425014a42402ce41d02204110000c00,
  0x3c2557039655603945550392554038c553038855203865510384550037e54f038054d084054c22be4dc083e4a0184646428a845b021844e0390439038e438038a437090e4360c60425014a42402ce41d02204110000c00,
  0x3c2557039655603945550392554038c553038855203865510384550037e54f038054d084054c22be4dc083e4a01a4446428a845b021844e0390439038e438038a437090e4360c60425014a42402ce41d02204110000c00,
  0x1e9da22be4dc277445b0fa6425014c424001e824029c41d02164110000c00,
  0x299db078454c22be4dc07824a0277445b09f84360fa6425014c4240029824029c41d02164110000c00,
  0x2f9cd051655703d855603d655503d455403ce55303ca55203c855103c655003c054f03c454d078454c22be4dc07824a0277445b03d243903d043803cc43709f84360fa6425014c424029c41d02164110000c00,
  0x3f9dc22be4dc277445b014c424003f824029c41d02164110000c00,
  0x1c5a568001592f1d0e4a61464453153a43422444272242426035641d0000c00,
  0x3c2557039655603945550392554038c553038855203865510384550037e54f038054d084054c22be4dc083e4a0007246428a845b038244e0390439038e438038a437090e4360c60425014a42402ce41d02204110000c00,
  0x1c5a568001592f1d1c4a61466453153c43422444272242426035641d0000c00,
  0x3c2557039655603945550392554038c553038855203865510384550037e54f038054d084054c22be4dc083e4a0007846428a845b038244e0390439038e438038a437090e4360c60425014a42402ce41d02204110000c00]

/-- The rows of actions 1600 to 1663. -/
def rows25 : Array Nat := #[
  0x3c2557039655603945550392554038c553038855203865510384550037e54f038054d084054c22be4dc083e4a0007a46428a845b038244e0390439038e438038a437090e4360c60425014a42402ce41d02204110000c00,
  0x1c5a568001592f1d244a61468453153e43422444272242426035641d0000c00,
  0x3c2557039655603945550392554038c553038855203865510384550037e54f038054d084054c22be4dc083e4a0007e46428a845b038244e0390439038e438038a437090e4360c60425014a42402ce41d02204110000c00,
  0x1c5a568001592f1d264a6146a453154043422444272242426035641d0000c00,
  0x589dd04725570460556045e555045c554045655304525520450551044e550044a54f044c54d084054c22be4dc083e4a028a845b045a43904584380454437090e4360c60425015242402ce41d02204110000c00,
  0x539dd04725570460556045e555045c554045655304525520450551044e550044a54f044c54d084054c22be4dc083e4a028a845b045a43904584380454437090e4360c60425015242402ce41d02204110000c00,
  0x7c9dd04725570460556045e555045c554045655304525520450551044e550044a54f044c54d084054c22be4dc083e4a028a845b045a43904584380454437090e4360c60425015242402ce41d02204110000c00,
  0xaa9dd04725570460556045e555045c554045655304525520450551044e550044a54f044c54d084054c22be4dc083e4a028a845b045a43904584380454437090e4360c60425015242402ce41d02204110000c00,
  0xab9dd04725570460556045e555045c554045655304525520450551044e550044a54f044c54d084054c22be4dc083e4a028a845b045a43904584380454437090e4360c60425015242402ce41d02204110000c00,
  0xac9de045c5540452552044c54d22be4dc28a845b045a4390c60425015242402ce41d02204110000c00,
  0xac9df045c55422be4dc28a845b0c60425015242400ac82402ce41d02204110000c00,
  0xac9e0045e555045c55404565530452552044a54f044c54d22be4dc28a845b045a439045843804544370c60425015242402ce41d02204110000c00,
  0xac9e1045e555045c55404565530452552044e550044a54f044c54d22be4dc28a845b045a439045843804544370c60425015242402ce41d02204110000c00,
  0xac9e2045c554044c54d22be4dc28a845b045a4390c60425015242400ac82402ce41d02204110000c00,
  0xac9e3045e555045c5540452552044a54f044c54d22be4dc28a845b045a4390c60425015242402ce41d02204110000c00,
  0xac9e4045e555045c5540452552044a54f044c54d22be4dc28a845b045a43904544370c60425015242402ce41d02204110000c00,
  0xac9e5045e555045c55404565530452552044a54f044c54d22be4dc28a845b045a43904544370c60425015242402ce41d02204110000c00,
  0xac9e6045c554044c54d22be4dc28a845b0c60425015242400ac82402ce41d02204110000c00,
  0xac9e7045c554084054c22be4dc083e4a028a845b090e4360c60425015242400ac82402ce41d02204110000c00,
  0xac9e8045c5540452552044a54f044c54d22be4dc28a845b045a4390c60425015242402ce41d02204110000c00,
  0xac9e9045e555045c554045655304525520450551044e550044a54f044c54d22be4dc28a845b045a439045843804544370c60425015242402ce41d02204110000c00,
  0xb89dd04725570460556045e555045c554045655304525520450551044e550044a54f044c54d084054c22be4dc083e4a028a845b045a43904584380454437090e4360c60425015242402ce41d02204110000c00,
  0xf79dd04725570460556045e555045c554045655304525520450551044e550044a54f044c54d084054c22be4dc083e4a028a845b045a43904584380454437090e4360c60425015242402ce41d02204110000c00,
  0xf99dd04725570460556045e555045c554045655304525520450551044e550044a54f044c54d084054c22be4dc083e4a028a845b045a43904584380454437090e4360c60425015242402ce41d02204110000c00,
  0xfe9dd04725570460556045e555045c554045655304525520450551044e550044a54f044c54d084054c22be4dc083e4a028a845b045a43904584380454437090e4360c60425015242402ce41d02204110000c00,
  0xff9dd04725570460556045e555045c554045655304525520450551044e550044a54f044c54d084054c22be4dc083e4a028a845b045a43904584380454437090e4360c60425015242402ce41d02204110000c00,
  0x1639dd04725570460556045e555045c554045655304525520450551044e550044a54f044c54d084054c22be4dc083e4a028a845b045a43904584380454437090e4360c60425015242402ce41d02204110000c00,
  0x1e9ea22be4dc28a845b0c604250152424001e82402ce41d02204110000c00,
  0x299eb084054c22be4dc083e4a028a845b090e4360c604250152424002982402ce41d02204110000c00,
  0x2f9dd04725570460556045e555045c554045655304525520450551044e550044a54f044c54d084054c22be4dc083e4a028a845b045a43904584380454437090e4360c60425015242402ce41d02204110000c00,
  0x3f9ec22be4dc28a845b0152424003f82402ce41d02204110000c00,
  0x3c2557039655603945550392554038c553038855203865510384550037e54f038054d084054c22be4dc083e4a028a845b038244e0390439038e438038a437090e4360c60425014a42402ce41d028241202204110000c00,
  0x3c2557039655603945550392554038c553038855203865510384550037e54f038054d084054c22be4dc083e4a028a845b038244e0390439038e438038a437090e4360c60425014a42402ce41d028641202204110000c00,
  0x7919003a8e300078e3003a8de04e043b0000c00, 0x791a003a909003a9080007908044843b0000c00,
  0x3c2557039655603945550392554038c553038855203865510384550037e54f038054d084054c22be4dc083e4a0009e46428a845b038244e0390439038e438038a437090e4360c60425014a42402ce41d02204110000c00,
  0x3c2557039655603945550392554038c553038855203865510384550037e54f038054d084054c22be4dc083e4a000a446428a845b038244e0390439038e438038a437090e4360c60425014a42402ce41d02204110000c00,
  0x3c2557039655603945550392554038c553038855203865510384550037e54f038054d084054c22be4dc083e4a000a646428a845b038244e0390439038e438038a437090e4360c60425014a42402ce41d02204110000c00,
  0x3c2557039655603945550392554038c553038855203865510384550037e54f038054d084054c22be4dc083e4a000aa46428a845b038244e0390439038e438038a437090e4360c60425014a42402ce41d02204110000c00,
  0x78d7041c43b0000c00,
  0x3c2557039655603945550392554038c553038855203865510384550037e54f038054d084054c22be4dc083e4a028a845b038244e0390439038e438038a437090e4360c60425014a42402ce41d028a41202204110000c00,
  0x3c2557039655603945550392554038c553038855203865510384550037e54f038054d084054c22be4dc083e4a028a845b038244e0390439038e438038a437090e4360c60425014a42402ce41d028e41202204110000c00,
  0x3c2557039655603945550392554038c553038855203865510384550037e54f038054d084054c22be4dc083e4a028a845b038244e0390439038e438038a437090e4360c60425014a42402ce41d027041202204110000c00,
  0x3c2557039655603945550392554038c553038855203865510384550037e54f038054d084054c22be4dc083e4a028a845b038244e0390439038e438038a437090e4360c60425014a42402ce41d027441202204110000c00,
  0x51655703d855603d655503d455403ce55303ca55203c855103c655003c054f03c454d078454c22be4dc07824a0065049e277445b03d243903d043803cc43709f84360fa6425014c424029c41d02164110000c00,
  0x1599e1c5a4aa1c5c4a6005d871005c87114a4455143a4531424447036a43b14d643422444272242426142241f035641d0000c00,
  0x78d3006286b000786b037c43b0000c00,
  0x1c7452c1aa44a60016871142e455142c45413c845312d84521382447036644114d443422444272242426138041f035641d0000c00,
  0x1599e1c5a4ad1c5c4a60e3c44f0b6644e036a43b22444272242426035641d0000c00,
  0x78d802ae46e02ae46d000786d037c43b0000c00, 0x159661c5a4ad1c804a622444272242426035641d0000c00,
  0x14e852a17d2529167c4a612044550e4645411f04530e624520e64447154243414e64310d3242f20e642d22244272222426101041f03dc41d0000c00,
  0x3c2557039655603945550392554038c553038855203865510384550037e54f038054d084054c22be4dc083e4a000cb87128a845b0390439038e438038a437090e4360c60425014a42402ce41d02204110000c00,
  0x1596617d24ad18f04a62224427222242603dc41d0000c00,
  0x159661c5a4ad1c9a4a622444272242426035641d0000c00,
  0x159661c5a4ad1d584a622444272242426035641d0000c00,
  0x1592f1c5a4ad1c9e4a622444272242426035641d0000c00,
  0x51655703d855603d655503d455403ce55303ca55203c855103c655003c054f03c454d078454c22be4dc07824a006b4492277445b03d243903d043803cc43709f84360fa6425014c424029c41d06b641202164110000c00,
  0x3c2557039655603945550392554038c553038855203865510384550037e54f038054d084054c22be4dc083e4a000c487128a845b0390439038e438038a437090e4360c60425014a42402ce41d02204110000c00,
  0x3c2557039655603945550392554038c553038855203865510384550037e54f038054d084054c22be4dc083e4a000c987128a845b0390439038e438038a437090e4360c60425014a42402ce41d02204110000c00,
  0x1599e1c5a4aa1c5c4a614a4455143a453286244f11e044e142444714d643422444272242426142241f035641d0000c00,
  0x1596617d24ad18fa4a62224427222242603dc41d0000c00,
  0x51655703d855603d655503d455403ce55303ca55203c855103c655003c054f03c454d078454c22be4dc07824a0203a49e277445b03d243903d043803cc43709f84360fa6425014c424029c41d02164110000c00,
  0xd9ed000b9a40000c00]

/-- The rows of actions 1664 to 1727. -/
def rows26 : Array Nat := #[
  0x159661c5a4ad1d5c4a622444272242426035641d0000c00, 0x1599f001d8b10000c00,
  0x1599e1c5a4ad1c5c4a60d3c44f0b6644e036a43b22444272242426035641d0000c00,
  0x159661c5a4ad1d664a622444272242426035641d0000c00,
  0x159661c5a4ad1c984a622444272242426035641d0000c00,
  0x159661c5a4ad1d684a622444272242426035641d0000c00,
  0x159661c5a4ad1cae4a622444272242426035641d0000c00,
  0x159661c5a4ad1cb04a622444272242426035641d0000c00,
  0x1592f1c5a4ad1cb44a622444272242426035641d0000c00,
  0x159661c5a4ad1d6a4a622444272242426035641d0000c00,
  0x159661c5a4ad1cc24a622444272242426035641d0000c00,
  0x1592f1c5a4ad1cc64a622444272242426035641d0000c00,
  0x159661c5a4ad1cce4a622444272242426035641d0000c00,
  0x1592f1c5a4ad1cd04a622444272242426035641d0000c00,
  0x1592f1c5a4ad1cd84a622444272242426035641d0000c00, 0xd9ee000b9c60000c00,
  0x1599e1c5a4ad1c5c4a60d1244f0b6644e036a43b22444272242426035641d0000c00, 0xcd8585008d8df0000c00,
  0x1599e1c5a4ad1c5c4a60ddc44f0b6644e036a43b22444272242426035641d0000c00,
  0x3d9c700079c7003d92100078f90000c00, 0xa190900498b20000c00, 0x10490900498b20000c00,
  0x339ef00328d8003386d003286d0000c00, 0x5b9ef005a8d8005b86d005a86d0000c00,
  0x1a9ef00198d8001a86d001986d0000c00,
  0x1599e1c5a4ad1c5c4a6123044f0b6644e036a43b22444272242426035641d0000c00,
  0x7914003d909003d90800079080000c00, 0x791f003a9160007916003a8de037c43b0000c00,
  0x79ad00918fb23544dc283045b0000c00, 0x978fb00078f90000c00,
  0x1599e1c5a4ad1c5c4a6131044f0b6644e036a43b22444272242426035641d0000c00,
  0x7914003a909003a90800079080000c00, 0x449140099909009990800449080000c00,
  0x5b9af005a8d3005b86f005a86f0000c00, 0x1991f008e9160019916008e8de001a83b0000c00,
  0x3291f0093916003291600938de003383b0000c00,
  0x51655703d855603d655503d455403ce55303ca55203c855103c655003c054f03c454d078454c22be4dc07824a0203849e277445b03d243903d043803cc43709f84360fa6425014c424029c41d02164110000c00,
  0x51655703d855603d655503d455403ce55303ca55203c855103c655003c054f03c454d078454c22be4dc07824a0207a492277445b03d243903d043803cc43709f84360fa6425014c424029c41d207c41202164110000c00,
  0x1592f1c5a4ad1d0e4a622444272242426035641d0000c00,
  0x1592f1c5a4ad1d1c4a622444272242426035641d0000c00,
  0x1592f1c5a4ad1d244a622444272242426035641d0000c00,
  0x1592f1c5a4ad1d264a622444272242426035641d0000c00,
  0x589f004a25570490556048e555048c554048655304825520480551047e550047a54f047c54d084054c22be4dc083e4a028a845b048a43904884380484437090e4360c60425015442402ce41d02204110000c00,
  0x539f004a25570490556048e555048c554048655304825520480551047e550047a54f047c54d084054c22be4dc083e4a028a845b048a43904884380484437090e4360c60425015442402ce41d02204110000c00,
  0x7c9f004a25570490556048e555048c554048655304825520480551047e550047a54f047c54d084054c22be4dc083e4a028a845b048a43904884380484437090e4360c60425015442402ce41d02204110000c00,
  0xaa9f004a25570490556048e555048c554048655304825520480551047e550047a54f047c54d084054c22be4dc083e4a028a845b048a43904884380484437090e4360c60425015442402ce41d02204110000c00,
  0xab9f004a25570490556048e555048c554048655304825520480551047e550047a54f047c54d084054c22be4dc083e4a028a845b048a43904884380484437090e4360c60425015442402ce41d02204110000c00,
  0xac9f1048c5540482552047c54d22be4dc28a845b048a4390c60425015442402ce41d02204110000c00,
  0xac9f2048c55422be4dc28a845b0c60425015442400ac82402ce41d02204110000c00,
  0xac9f3048e555048c55404865530482552047a54f047c54d22be4dc28a845b048a439048843804844370c60425015442402ce41d02204110000c00,
  0xac9f4048e555048c55404865530482552047e550047a54f047c54d22be4dc28a845b048a439048843804844370c60425015442402ce41d02204110000c00,
  0xac9f5048c554047c54d22be4dc28a845b048a4390c60425015442400ac82402ce41d02204110000c00,
  0xac9f6048e555048c5540482552047a54f047c54d22be4dc28a845b048a4390c60425015442402ce41d02204110000c00,
  0xac9f7048e555048c5540482552047a54f047c54d22be4dc28a845b048a43904844370c60425015442402ce41d02204110000c00,
  0xac9f8048e555048c55404865530482552047a54f047c54d22be4dc28a845b048a43904844370c60425015442402ce41d02204110000c00,
  0xac9f9048c554047c54d22be4dc28a845b0c60425015442400ac82402ce41d02204110000c00,
  0xac9fa048c554084054c22be4dc083e4a028a845b090e4360c60425015442400ac82402ce41d02204110000c00,
  0xac9fb048c5540482552047a54f047c54d22be4dc28a845b048a4390c60425015442402ce41d02204110000c00,
  0xac9fc048e555048c554048655304825520480551047e550047a54f047c54d22be4dc28a845b048a439048843804844370c60425015442402ce41d02204110000c00,
  0xb89f004a25570490556048e555048c554048655304825520480551047e550047a54f047c54d084054c22be4dc083e4a028a845b048a43904884380484437090e4360c60425015442402ce41d02204110000c00,
  0xf79f004a25570490556048e555048c554048655304825520480551047e550047a54f047c54d084054c22be4dc083e4a028a845b048a43904884380484437090e4360c60425015442402ce41d02204110000c00,
  0xf99f004a25570490556048e555048c554048655304825520480551047e550047a54f047c54d084054c22be4dc083e4a028a845b048a43904884380484437090e4360c60425015442402ce41d02204110000c00,
  0xfe9f004a25570490556048e555048c554048655304825520480551047e550047a54f047c54d084054c22be4dc083e4a028a845b048a43904884380484437090e4360c60425015442402ce41d02204110000c00,
  0xff9f004a25570490556048e555048c554048655304825520480551047e550047a54f047c54d084054c22be4dc083e4a028a845b048a43904884380484437090e4360c60425015442402ce41d02204110000c00]

/-- The rows of actions 1728 to 1791. -/
def rows27 : Array Nat := #[
  0x1639f004a25570490556048e555048c554048655304825520480551047e550047a54f047c54d084054c22be4dc083e4a028a845b048a43904884380484437090e4360c60425015442402ce41d02204110000c00,
  0x1e9fd22be4dc28a845b0c604250154424001e82402ce41d02204110000c00,
  0x299fe084054c22be4dc083e4a028a845b090e4360c604250154424002982402ce41d02204110000c00,
  0x2f9f004a25570490556048e555048c554048655304825520480551047e550047a54f047c54d084054c22be4dc083e4a028a845b048a43904884380484437090e4360c60425015442402ce41d02204110000c00,
  0x3f9ff22be4dc28a845b0154424003f82402ce41d02204110000c00,
  0x58a0004d255704c055604be55504bc55404b655304b255204b055104ae55004aa54f04ac54d084054c22be4dc083e4a028a845b04ba43904b843804b4437090e4360c60425015842402ce41d02204110000c00,
  0x53a0004d255704c055604be55504bc55404b655304b255204b055104ae55004aa54f04ac54d084054c22be4dc083e4a028a845b04ba43904b843804b4437090e4360c60425015842402ce41d02204110000c00,
  0x7ca0004d255704c055604be55504bc55404b655304b255204b055104ae55004aa54f04ac54d084054c22be4dc083e4a028a845b04ba43904b843804b4437090e4360c60425015842402ce41d02204110000c00,
  0xaaa0004d255704c055604be55504bc55404b655304b255204b055104ae55004aa54f04ac54d084054c22be4dc083e4a028a845b04ba43904b843804b4437090e4360c60425015842402ce41d02204110000c00,
  0xaba0004d255704c055604be55504bc55404b655304b255204b055104ae55004aa54f04ac54d084054c22be4dc083e4a028a845b04ba43904b843804b4437090e4360c60425015842402ce41d02204110000c00,
  0xaca0104bc55404b255204ac54d22be4dc28a845b04ba4390c60425015842402ce41d02204110000c00,
  0xaca0204bc55422be4dc28a845b0c60425015842400ac82402ce41d02204110000c00,
  0xaca0304be55504bc55404b655304b255204aa54f04ac54d22be4dc28a845b04ba43904b843804b44370c60425015842402ce41d02204110000c00,
  0xaca0404be55504bc55404b655304b255204ae55004aa54f04ac54d22be4dc28a845b04ba43904b843804b44370c60425015842402ce41d02204110000c00,
  0xaca0504bc55404ac54d22be4dc28a845b04ba4390c60425015842400ac82402ce41d02204110000c00,
  0xaca0604be55504bc55404b255204aa54f04ac54d22be4dc28a845b04ba4390c60425015842402ce41d02204110000c00,
  0xaca0704be55504bc55404b255204aa54f04ac54d22be4dc28a845b04ba43904b44370c60425015842402ce41d02204110000c00,
  0xaca0804be55504bc55404b655304b255204aa54f04ac54d22be4dc28a845b04ba43904b44370c60425015842402ce41d02204110000c00,
  0xaca0904bc55404ac54d22be4dc28a845b0c60425015842400ac82402ce41d02204110000c00,
  0xaca0a04bc554084054c22be4dc083e4a028a845b090e4360c60425015842400ac82402ce41d02204110000c00,
  0xaca0b04bc55404b255204aa54f04ac54d22be4dc28a845b04ba4390c60425015842402ce41d02204110000c00,
  0xaca0c04be55504bc55404b655304b255204b055104ae55004aa54f04ac54d22be4dc28a845b04ba43904b843804b44370c60425015842402ce41d02204110000c00,
  0xb8a0004d255704c055604be55504bc55404b655304b255204b055104ae55004aa54f04ac54d084054c22be4dc083e4a028a845b04ba43904b843804b4437090e4360c60425015842402ce41d02204110000c00,
  0xf7a0004d255704c055604be55504bc55404b655304b255204b055104ae55004aa54f04ac54d084054c22be4dc083e4a028a845b04ba43904b843804b4437090e4360c60425015842402ce41d02204110000c00,
  0xf9a0004d255704c055604be55504bc55404b655304b255204b055104ae55004aa54f04ac54d084054c22be4dc083e4a028a845b04ba43904b843804b4437090e4360c60425015842402ce41d02204110000c00,
  0xfea0004d255704c055604be55504bc55404b655304b255204b055104ae55004aa54f04ac54d084054c22be4dc083e4a028a845b04ba43904b843804b4437090e4360c60425015842402ce41d02204110000c00,
  0xffa0004d255704c055604be55504bc55404b655304b255204b055104ae55004aa54f04ac54d084054c22be4dc083e4a028a845b04ba43904b843804b4437090e4360c60425015842402ce41d02204110000c00,
  0x163a0004d255704c055604be55504bc55404b655304b255204b055104ae55004aa54f04ac54d084054c22be4dc083e4a028a845b04ba43904b843804b4437090e4360c60425015842402ce41d02204110000c00,
  0x1ea0d22be4dc28a845b0c604250158424001e82402ce41d02204110000c00,
  0x29a0e084054c22be4dc083e4a028a845b090e4360c604250158424002982402ce41d02204110000c00,
  0x2fa0004d255704c055604be55504bc55404b655304b255204b055104ae55004aa54f04ac54d084054c22be4dc083e4a028a845b04ba43904b843804b4437090e4360c60425015842402ce41d02204110000c00,
  0x3fa0f22be4dc28a845b0158424003f82402ce41d02204110000c00,
  0x7922003a909003a9080007908047843b0000c00, 0x7923003a909003a908000790804a843b0000c00,
  0x78df04e043b0000c00,
  0x1599e1c5a5681c5c4a6005d871005c871143a453036a43b14d643422444272242426035641d0000c00,
  0x1599e1c5a4ab1c5c4a6005d871005c871143a453036a43b14d643422444272242426142241f035641d0000c00,
  0x4725570460556045e555045c554045655304525520450551044e550044a54f044c54d084054c22be4dc083e4a0036e45c28a845b045a43904584380454437090e4360c60425015242402ce41d02204110000c00,
  0x4a25570490556048e555048c554048655304825520480551047e550047a54f047c54d084054c22be4dc083e4a028a845b1ab8459048a43904884380484437090e4360c60425015442402ce41d02204110000c00,
  0x1599e1c5a4aa1c5c4a6005c87114a4455143a453142444714d643422444272242426142241f035641d0000c00,
  0x898d300348d3008983c0000c00, 0x17d26110015a1018f04a6120445511fc4472224427222242603dc41d0000c00,
  0x15a1017d24ad18f04a614f24312224427222242603dc41d0000c00, 0x4ca1200f39c302204110000c00,
  0x1599e1c5a5681c5c4a6143a453286244f11e044e14d643422444272242426035641d0000c00,
  0x1599e1c5a4ab1c5c4a6143a453286244f11e044e14d643422444272242426142241f035641d0000c00,
  0x1298d300848d3012983c0000c00, 0xf68d300898d300f683c0000c00,
  0x17d26110015a1018fa4a6120445513884472224427222242603dc41d0000c00,
  0x15a1017d24ad18fa4a6150a4312224427222242603dc41d0000c00,
  0x17d26110015a1018fe4a61204455138a4472224427222242603dc41d0000c00,
  0x15a1017d24ad19004a615104312224427222242603dc41d0000c00, 0x1678d300f18d3016783c0000c00,
  0x1698d300f68d3016983c0000c00, 0x17d26110015a10191c4a6120445513964472224427222242603dc41d0000c00,
  0x15a1017d24ad191e4a615284312224427222242603dc41d0000c00,
  0x17d26110015a10192a4a61204455139c4472224427222242603dc41d0000c00,
  0x15a1017d24ad192c4a6152c4312224427222242603dc41d0000c00, 0x18e8d301448d3018e83c0000c00,
  0x1592b001c8b1005d871005c8710015871036a43b0000c00,
  0x1592b001d8b1005d871005c8710015871036a43b0000c00,
  0x78d300258590007859002584e047843b002583b0000c00, 0x7927003a909003a908000790803ee43b0000c00,
  0x4aa5ac04d255704c055604be55504bc55404b655304b255204b055104ae55004ac54d084054c22be4dc083e4a000d586e04aa46d00d586d28a845b04ba43904b843804b4437090e4360c60425015842402ce41d02204110000c00]

/-- The rows of actions 1792 to 1855. -/
def rows28 : Array Nat := #[
  0x33a1300328d3003385900328590000c00, 0x5ba13005a8d3005b859005a8590000c00,
  0x1aa1300198d3001a85900198590000c00, 0xb1a140000c00, 0x3d90400078f9003d8eb00078eb0000c00,
  0x125a140000c00, 0xa190900498e10000c00, 0x162a140000c00, 0x10490900498e10000c00,
  0x791f003d9160007916003d8de0000c00, 0x3a90400078f9003a8eb00078eb0000c00,
  0x9990400448f900998eb00448eb0000c00,
  0x4725570460556045e555045c554045655304525520450551044e550044a54f044c54d084054c22be4dc083e4a003a245c28a845b045a43904584380454437090e4360c60425015242402ce41d02204110000c00,
  0x4a25570490556048e555048c554048655304825520480551047e550047a54f047c54d084054c22be4dc083e4a028a845b17d6459048a43904884380484437090e4360c60425015442402ce41d02204110000c00,
  0x42055704065560404555040255403fc55303f855203f655103f455003f054f03f254d084054c22be4dc083e4a028a845b040043903fe43803fa437090e43600588280c60425014e42402ce41d02204110000c00,
  0x42055704065560404555040255403fc55303f855203f655103f455003f054f03f254d084054c22be4dc083e4a028a845b040043903fe43803fa437090e43600538280c60425014e42402ce41d02204110000c00,
  0x42055704065560404555040255403fc55303f855203f655103f455003f054f03f254d084054c22be4dc083e4a028a845b040043903fe43803fa437090e436007c8280c60425014e42402ce41d02204110000c00,
  0x42055704065560404555040255403fc55303f855203f655103f455003f054f03f254d084054c22be4dc083e4a028a845b040043903fe43803fa437090e43600aa8280c60425014e42402ce41d02204110000c00,
  0x42055704065560404555040255403fc55303f855203f655103f455003f054f03f254d084054c22be4dc083e4a028a845b040043903fe43803fa437090e43600ab8280c60425014e42402ce41d02204110000c00,
  0xaca15040255403f855203f254d22be4dc28a845b04004390c60425014e42402ce41d02204110000c00,
  0xaca16040255422be4dc28a845b0c60425014e42400ac82402ce41d02204110000c00,
  0xaca170404555040255403fc55303f855203f054f03f254d22be4dc28a845b040043903fe43803fa4370c60425014e42402ce41d02204110000c00,
  0xaca180404555040255403fc55303f855203f455003f054f03f254d22be4dc28a845b040043903fe43803fa4370c60425014e42402ce41d02204110000c00,
  0xaca19040255403f254d22be4dc28a845b04004390c60425014e42400ac82402ce41d02204110000c00,
  0xaca1a0404555040255403f855203f054f03f254d22be4dc28a845b04004390c60425014e42402ce41d02204110000c00,
  0xaca1b0404555040255403f855203f054f03f254d22be4dc28a845b040043903fa4370c60425014e42402ce41d02204110000c00,
  0xaca1c0404555040255403fc55303f855203f054f03f254d22be4dc28a845b040043903fa4370c60425014e42402ce41d02204110000c00,
  0xaca1d040255403f254d22be4dc28a845b0c60425014e42400ac82402ce41d02204110000c00,
  0xaca1e0402554084054c22be4dc083e4a028a845b090e4360c60425014e42400ac82402ce41d02204110000c00,
  0xaca1f040255403f855203f054f03f254d22be4dc28a845b04004390c60425014e42402ce41d02204110000c00,
  0xaca200404555040255403fc55303f855203f655103f455003f054f03f254d22be4dc28a845b040043903fe43803fa4370c60425014e42402ce41d02204110000c00,
  0x42055704065560404555040255403fc55303f855203f655103f455003f054f03f254d084054c22be4dc083e4a028a845b040043903fe43803fa437090e43600b88280c60425014e42402ce41d02204110000c00,
  0x42055704065560404555040255403fc55303f855203f655103f455003f054f03f254d084054c22be4dc083e4a028a845b040043903fe43803fa437090e43600f78280c60425014e42402ce41d02204110000c00,
  0x42055704065560404555040255403fc55303f855203f655103f455003f054f03f254d084054c22be4dc083e4a028a845b040043903fe43803fa437090e43600f98280c60425014e42402ce41d02204110000c00,
  0x42055704065560404555040255403fc55303f855203f655103f455003f054f03f254d084054c22be4dc083e4a028a845b040043903fe43803fa437090e43600fe8280c60425014e42402ce41d02204110000c00,
  0x42055704065560404555040255403fc55303f855203f655103f455003f054f03f254d084054c22be4dc083e4a028a845b040043903fe43803fa437090e43600ff8280c60425014e42402ce41d02204110000c00,
  0x42055704065560404555040255403fc55303f855203f655103f455003f054f03f254d084054c22be4dc083e4a028a845b040043903fe43803fa437090e43601638280c60425014e42402ce41d02204110000c00,
  0x4725570460556045e555045c554045655304525520450551044e550044a54f044c54d084054c22be4dc083e4a028a845b006384f045a43904584380454437090e4360c60425015242402ce41d02204110000c00,
  0x1ea2122be4dc28a845b0c60425014e424001e82402ce41d02204110000c00,
  0x29a22084054c22be4dc083e4a028a845b090e4360c60425014e424002982402ce41d02204110000c00,
  0x42055704065560404555040255403fc55303f855203f655103f455003f054f03f254d084054c22be4dc083e4a028a845b040043903fe43803fa437090e436002f8280c60425014e42402ce41d02204110000c00,
  0x3fa2322be4dc28a845b014e424003f82402ce41d02204110000c00,
  0x4725570460556045e555045c554045655304525520450551044e550044a54f044c54d084054c22be4dc083e4a0041045c28a845b045a43904584380454437090e4360c60425015242402ce41d02204110000c00,
  0x4725570460556045e555045c554045655304525520450551044e550044a54f044c54d084054c22be4dc083e4a0046a45c28a845b045a43904584380454437090e4360c60425015242402ce41d02204110000c00,
  0x4725570460556045e555045c554045655304525520450551044e550044a54f044c54d084054c22be4dc083e4a0049a45c28a845b045a43904584380454437090e4360c60425015242402ce41d02204110000c00,
  0x4725570460556045e555045c554045655304525520450551044e550044a54f044c54d084054c22be4dc083e4a004ca45c28a845b045a43904584380454437090e4360c60425015242402ce41d02204110000c00,
  0x78b203be43b0000c00,
  0x4725570460556045e555045c554045655304525520450551044e550044a54f044c54d084054c22be4dc083e4a003e645c28a845b045a43904584380454437090e4360c60425015242402ce41d02204110000c00,
  0x4725570460556045e555045c554045655304525520450551044e550044a54f044c54d084054c22be4dc083e4a0050245c28a845b045a43904584380454437090e4360c60425015242402ce41d02204110000c00,
  0x4725570460556045e555045c554045655304525520450551044e550044a54f044c54d084054c22be4dc083e4a0044045c28a845b045a43904584380454437090e4360c60425015242402ce41d02204110000c00,
  0x78e6044843b0000c00,
  0x42055704065560404555040255403fc55303f855203f655103f455003f054f03f254d084054c22be4dc083e4a0277445b040043903fe43803fa43709f84360c60425014e424029c41d02164110000c00,
  0x1599e1c5a4ad1c5c4a6005d871005c871036a43b22444272242426035641d0000c00,
  0x1599e001c8b10e3c44f0b6644e036a43b0000c00, 0x1599e001d8b10e3c44f0b6644e036a43b0000c00,
  0x1599e1c5a5681c5c4a6005c871143a45314d643422444272242426035641d0000c00,
  0x1599e1c5a4ab1c5c4a6005c871143a45314d643422444272242426142241f035641d0000c00,
  0x1599e1c5a4ad1c5c4a6286244f11e044e22444272242426035641d0000c00,
  0x15a1017d24ad190a4a62224427222242603dc41d0000c00,
  0x15a1017d24ad19124a62224427222242603dc41d0000c00,
  0x15a1017d24ad19144a62224427222242603dc41d0000c00,
  0x15a1017d24ad191a4a62224427222242603dc41d0000c00,
  0x15a1017d24ad19264a62224427222242603dc41d0000c00,
  0x15a1017d24ad19344a62224427222242603dc41d0000c00]

/-- The rows of actions 1856 to 1919. -/
def rows29 : Array Nat := #[
  0x15a1017d24ad19364a62224427222242603dc41d0000c00,
  0x15a1017d24ad19384a62224427222242603dc41d0000c00,
  0x15a1017d24ad193a4a62224427222242603dc41d0000c00,
  0x15a1017d24ad19404a62224427222242603dc41d0000c00,
  0x15a1017d24ad19424a62224427222242603dc41d0000c00,
  0x15a1017d24ad19444a62224427222242603dc41d0000c00,
  0x15a1017d24ad194a4a62224427222242603dc41d0000c00,
  0x15a1017d24ad194c4a62224427222242603dc41d0000c00,
  0x15a1017d24ad194e4a62224427222242603dc41d0000c00,
  0x15a1017d24ad19504a62224427222242603dc41d0000c00, 0x1599e001c8b10d3c44f0b6644e036a43b0000c00,
  0x1599e001d8b10d3c44f0b6644e036a43b0000c00, 0x1599e001c8b10d1244f0b6644e036a43b0000c00,
  0x1599e001d8b10d1244f0b6644e036a43b0000c00, 0x1599e001c8b10ddc44f0b6644e036a43b0000c00,
  0x1599e001d8b10ddc44f0b6644e036a43b0000c00, 0x1599e001c8b1123044f0b6644e036a43b0000c00,
  0x1599e001d8b1123044f0b6644e036a43b0000c00, 0xcd8585008d8f10000c00,
  0x1599e001c8b1131044f0b6644e036a43b0000c00, 0x1599e001d8b1131044f0b6644e036a43b0000c00,
  0x42055704065560404555040255403fc55303f855203f655103f455003f054f03f254d084054c22be4dc083e4a028a845b040043903fe43803fa437090e4360c60425014e42402ce41d02204110000c00,
  0x78f202ae46e02ae46d000786d03ee43b0000c00, 0x78e1047843b0000c00, 0x78f104a843b0000c00,
  0x78d3036443b0000c00, 0x82a241410492141141200828120000c00,
  0x1599e1c5a4ad1c5c4a6005c87122444272242426035641d0000c00, 0xeea241416492141941200ee8120000c00,
  0x45a252abe45b078042402264110000c00, 0xcda260000c00, 0x130a260000c00, 0x16ea260000c00,
  0x190a260000c00, 0x1a7a260000c00, 0x1b3a260000c00, 0x1bba260000c00, 0x1c0a260000c00,
  0x60a27141c4920000c00, 0x18a27141a4920000c00, 0x60a260000c00, 0x18a2713ee4920000c00,
  0xcea260000c00, 0x78d3039e43b0000c00, 0xd9ee1c444280000c00, 0x60a2713f24920000c00,
  0x78d3040c43b0000c00, 0x78d3046643b0000c00, 0x78d3049643b0000c00, 0x78d304c643b0000c00,
  0x78d303e043b0000c00, 0x78d304fe43b0000c00, 0x78d3043c43b0000c00,
  0x1599e001c8b1005d871005c871036a43b0000c00, 0x1599e001d8b1005d871005c871036a43b0000c00,
  0x15a281c5a4aa1c724a614a4455143c453142a44714dc43422444272242426142841f035641d0000c00,
  0xeca270000c00, 0xeea270000c00, 0x1599e001c8b1286244f11e044e0000c00,
  0x1599e001d8b1286244f11e044e0000c00, 0x142a270000c00, 0x60a270000c00, 0xcea270000c00,
  0x4ca1202164110000c00]

/-- The rows of actions 1920 to 1983. -/
def rows30 : Array Nat := #[
  0x15a281c5a4ad1c724a602a244022444272242426035641d0000c00,
  0x15a281c5a5681c724a6143c45314dc43422444272242426035641d0000c00,
  0x15a281c5a4ab1c724a6143c45314dc43422444272242426142841f035641d0000c00,
  0x17d262914e052a16784a61204455120a4530e5e4520e6044714de43414804310d9e42f22244272222426100c41f03dc41d0000c00,
  0x15a281c5a5681c924a6144245314ec43422444272242426035641d0000c00,
  0x15a281c5a4ab1c924a6144245314ec43422444272242426143241f035641d0000c00,
  0x1599e001c8b1005c8710000c00, 0x1599e001d8b1005c8710000c00,
  0x17d2629150052a168c4a6120445512024530e744520e76447154443414fe4310db242f2224427222242610aa41f03dc41d0000c00,
  0x15a281c5a5681ca84a6144c453150443422444272242426035641d0000c00,
  0x15a281c5a4ab1ca84a6144c453150443422444272242426143641f035641d0000c00,
  0x15a281c5a5681cbc4a61454453152243422444272242426035641d0000c00, 0x11ea2a0000c00,
  0x15a281c5a4ad1c724a622444272242426035641d0000c00,
  0x15a281c5a4ad1c924a622444272242426035641d0000c00,
  0x15a281c5a4ad1c984a622444272242426035641d0000c00,
  0x17d258014f252a18f04a6120445512ec45212ee44714f04312224427222242603dc41d0000c00,
  0x15a281c5a4ad1ca84a622444272242426035641d0000c00,
  0x15a281c5a4ad1cae4a622444272242426035641d0000c00,
  0x15a281c5a4ad1cb04a622444272242426035641d0000c00,
  0x17d2580151452a19064a6120445512fa45212fc44715124312224427222242603dc41d0000c00,
  0x15a281c5a4ad1cb44a622444272242426035641d0000c00,
  0x15a281c5a4ad1cbc4a622444272242426035641d0000c00,
  0x15a281c5a4ad1cc24a622444272242426035641d0000c00,
  0x15a281c5a4ad1cc44a622444272242426035641d0000c00,
  0x15a281c5a4ad1cc64a622444272242426035641d0000c00,
  0x15a281c5a4ad1cc84a622444272242426035641d0000c00,
  0x15a281c5a4ad1cce4a622444272242426035641d0000c00,
  0x15a281c5a4ad1cd04a622444272242426035641d0000c00,
  0x15a281c5a4ad1cd64a622444272242426035641d0000c00,
  0x15a281c5a4ad1cd84a622444272242426035641d0000c00,
  0x15a281c5a4ad1cde4a622444272242426035641d0000c00, 0x519a020e742d005182d0000c00,
  0x15a281c5a4ad1d0e4a622444272242426035641d0000c00,
  0x15a281c5a4ad1d1c4a622444272242426035641d0000c00,
  0x15a281c5a4ad1d244a622444272242426035641d0000c00,
  0x15a281c5a4ad1d264a622444272242426035641d0000c00,
  0x15a281c5a4ad1d284a622444272242426035641d0000c00,
  0x15a281c5a4ad1d5c4a622444272242426035641d0000c00,
  0x15a281c5a4ad1d664a622444272242426035641d0000c00,
  0x15a281c5a4ad1d684a622444272242426035641d0000c00,
  0x15a281c5a4ad1d6a4a622444272242426035641d0000c00,
  0x15a281c5a4ad1d6c4a622444272242426035641d0000c00,
  0x27704a829bc43329ba43229b84311a82430147642f1d7c42d275842029ca41f29c841e1a0e40d1a7040c1a6a40b29c64091c4a40629ea4050000c00,
  0x1c5a62b1c5c4a614a4455143a453140c452142444714d643422444272242426142241f035641d0000c00,
  0x1744a329bc43329ba43229b84311c4c430147642f1d7c42d275842029ca41f29c841e1a0e40d1a7040c1a6a40b29c64091c4a40629ea4050000c00,
  0x17d262c167a4a6120445511ee45311ec44714e44342224427222242603dc41d0000c00,
  0x1c5a4ad1de04a6067c44f22444272242426035641d0000c00,
  0x17d262c16864a61204455121045311fc44714f44342224427222242603dc41d0000c00,
  0x17d262b16ce4a6120445512124530e78452105e447150243422244272222426105c41f03dc41d0000c00,
  0x17d262b16d44a61204455124e4530e80452106a447153843422244272222426117641f03dc41d0000c00,
  0x1c5a4ad21ee4a606ce44f22444272242426035641d0000c00,
  0x1c5a4ad21ee4a606d244f22444272242426035641d0000c00,
  0x1c5a4ad21ee4a606e844f22444272242426035641d0000c00,
  0x1c5a4ad21ee4a606ea44f22444272242426035641d0000c00,
  0x28a44a82b724332b704322bda4311be0430148e42f1d7c42d29984202c4041f2b7441e1a6040d1c1640c1c1440b2c3e4091cfe4062bea4050000c00,
  0x1764a329bc43329ba43229b84311d70430149e42f1d7c42d275842029ca41f29c841e1a0e40d1a7040c1a6a40b29c64091d6e40629ea4050000c00,
  0x1c5a4ad20fc4a6205244f22444272242426035641d0000c00,
  0x1c5a4ad21ee4a6208e44f22444272242426035641d0000c00,
  0x1c5a4ad21ee4a6209244f22444272242426035641d0000c00,
  0x1c5a4ad21ee4a620a044f22444272242426035641d0000c00,
  0x1c5a4ad21ee4a620a244f22444272242426035641d0000c00,
  0x17c4a32b724332b704322bda4311d00430148e42f1d7c42d29984202c4041f2b7441e1a6040d1c1640c1c1440b2c3e4091cfe4062bea4050000c00,
  0x27704a829bc43329ba43229b84311c36430149e42f1d7c42d275842029ca41f29c841e1a0e40d1a7040c1a6a40b29c64091d6e40629ea4050000c00]

/-- The rows of actions 1984 to 2047. -/
def rows31 : Array Nat := #[
  0x1824a329bc43329ba43229b84311c4c430147642f1d7c42d275842029ca41f29c841e1a0e40d1a7040c1a6a40b29c64091c4a40629ea4050000c00,
  0x1c5a62d1c5c4a6143a453142444714d643422444272242426142241f035641d0000c00, 0x15a28001d8b10000c00,
  0x1c5a62d1c724a6143c453142a44714dc43422444272242426142841f035641d0000c00,
  0x17d262d16784a6120a453100e44714de43422244272222426100c41f03dc41d0000c00,
  0x1c5a62d1c924a61442453143444714ec43422444272242426143241f035641d0000c00,
  0x17d262d16844a6120e453105644714ee43422244272222426105441f03dc41d0000c00,
  0x1c5a5681c9a4a6144645314f443422444272242426035641d0000c00,
  0x17d262d168e4a61202453105a44715444342224427222242610aa41f03dc41d0000c00,
  0x17d262d16ce4a61212453105e447150243422244272222426105c41f03dc41d0000c00,
  0x17d262d16d44a6124e453106a447153843422244272222426117641f03dc41d0000c00,
  0x17d262d16904a612164531082447150643422244272222426108041f03dc41d0000c00,
  0x1c5a5681cb04a61450453150c43422444272242426035641d0000c00,
  0x17d262d16944a61208453108444715464342224427222242610b241f03dc41d0000c00,
  0x17d262d169a4a61208453108844715464342224427222242610b241f03dc41d0000c00,
  0x17d262d16da4a61218453108c447152043422244272222426108a41f03dc41d0000c00,
  0x17d262d16e04a61250453108e447153a43422244272222426117a41f03dc41d0000c00,
  0x17d262d16a44a6120c453109e44715484342224427222242610be41f03dc41d0000c00,
  0x17d262d16e24a6121c45310a2447152e4342224427222242610a041f03dc41d0000c00,
  0x17d262d16e44a6125245310a4447153c43422244272222426118041f03dc41d0000c00,
  0x1c5a4ad21ee4a622444272242426035641d0000c00, 0xfa250000c00, 0x45a250000c00, 0xada250000c00,
  0x11da250000c00, 0x11fa250000c00, 0x1c5a4ad1c5c4a622444272242426035641d0000c00,
  0x1c5a4ad1c724a622444272242426035641d0000c00, 0x1c5a4ad1c804a622444272242426035641d0000c00,
  0x17d24ad18e24a62224427222242603dc41d0000c00, 0x1c5a4ad1c924a622444272242426035641d0000c00,
  0x1c5a4ad1c984a622444272242426035641d0000c00, 0x17d24ad18f04a62224427222242603dc41d0000c00,
  0x17d262e18f04a611fc4472224427222242603dc41d0000c00,
  0x1c5a4ad1c9a4a622444272242426035641d0000c00,
  0x17d262e18f44a613864472224427222242603dc41d0000c00,
  0x17d24ad18f64a62224427222242603dc41d0000c00, 0x1c5a4ad1c9e4a622444272242426035641d0000c00,
  0x1c5a4ad1ca84a622444272242426035641d0000c00, 0x1c5a4ad1cae4a622444272242426035641d0000c00,
  0x17d262e18fa4a613884472224427222242603dc41d0000c00,
  0x17d24ad18fa4a62224427222242603dc41d0000c00, 0x1c5a4ad1cb04a622444272242426035641d0000c00,
  0x17d24ad18fc4a62224427222242603dc41d0000c00,
  0x17d262e19024a6138c4472224427222242603dc41d0000c00,
  0x17d24ad19044a62224427222242603dc41d0000c00,
  0x17d262e19084a6138e4472224427222242603dc41d0000c00,
  0x17d262e190e4a613904472224427222242603dc41d0000c00,
  0x17d24ad19104a62224427222242603dc41d0000c00, 0x1c5a4ad1cb44a622444272242426035641d0000c00,
  0x1c5a4ad1cbc4a622444272242426035641d0000c00, 0x1c5a4ad1cc24a622444272242426035641d0000c00,
  0x17d262e19124a613924472224427222242603dc41d0000c00,
  0x17d24ad19124a62224427222242603dc41d0000c00, 0x1c5a4ad1cc44a622444272242426035641d0000c00,
  0x17d262e19164a613944472224427222242603dc41d0000c00,
  0x17d24ad19184a62224427222242603dc41d0000c00,
  0x17d262e19204a613984472224427222242603dc41d0000c00,
  0x17d24ad19224a62224427222242603dc41d0000c00,
  0x17d262e19244a6139a4472224427222242603dc41d0000c00,
  0x17d24ad19284a62224427222242603dc41d0000c00,
  0x17d262e192e4a6139e4472224427222242603dc41d0000c00,
  0x17d24ad19304a62224427222242603dc41d0000c00, 0x17d262e19324a613a04472224427222242603dc41d0000c00]

/-- The rows of actions 2048 to 2111. -/
def rows32 : Array Nat := #[
  0x1c5a4ad1cc64a622444272242426035641d0000c00, 0x1c5a4ad1cc84a622444272242426035641d0000c00,
  0x1c5a4ad1cce4a622444272242426035641d0000c00,
  0x17d262e193c4a613a24472224427222242603dc41d0000c00,
  0x17d24ad193e4a62224427222242603dc41d0000c00,
  0x17d262e19464a613a44472224427222242603dc41d0000c00,
  0x17d24ad19484a62224427222242603dc41d0000c00, 0x1c5a4ad1cd04a622444272242426035641d0000c00,
  0x1c5a4ad1cd64a622444272242426035641d0000c00, 0x1c5a4ad1cd84a622444272242426035641d0000c00,
  0x1c5a4ad1cde4a622444272242426035641d0000c00, 0x1c5a4ad1d0a4a622444272242426035641d0000c00,
  0x1c5a4ad1d0e4a622444272242426035641d0000c00, 0x1c5a4ad1d1c4a622444272242426035641d0000c00,
  0x1c5a4ad1d244a622444272242426035641d0000c00, 0x1c5a4ad1d264a622444272242426035641d0000c00,
  0x1c5a4ad1d284a622444272242426035641d0000c00, 0x1c5a4ad1d584a622444272242426035641d0000c00,
  0x1c5a4ad1d5c4a622444272242426035641d0000c00, 0x1c5a4ad1d664a622444272242426035641d0000c00,
  0x1c5a4ad1d684a622444272242426035641d0000c00, 0x1c5a4ad1d6a4a622444272242426035641d0000c00,
  0x1c5a4ad1d6c4a622444272242426035641d0000c00, 0x2a764b4286a42a0000c00,
  0x91a2f23544dc283045b088c42402224110000c00, 0x91a2f23564dc283245b088c42402224110000c00,
  0x91a2f23584dc283445b088c42402224110000c00, 0x14fa300000c00, 0x150a300000c00, 0x1a1a300000c00,
  0xfd46321a9c63107964de1da64cf003c8cf075045c2aae45b003c84e079443b078042402464070000c00,
  0x3ba332a4c45b088c4240000c00,
  0xc7e6321a9c63107964de1da64cf003c8cf075045c2aae45b003c84e079443b078042402464070000c00,
  0x4a3429d045b174643f29ce43422a842a222442722224261744407166e4050000c00, 0x38a33088c4240000c00,
  0x3ba3507a45322a4c45b088c4240000c00, 0x91a3323544dc283045b0000c00, 0x91a33235a4dc283645b0000c00,
  0x104a360000c00, 0x110a3700c285b0000c00, 0x112a380000c00, 0x113a380000c00,
  0x110a3700c385b0000c00, 0x40a390000c00, 0xa5a390000c00,
  0x91a3a26e64dc293845b089042402244110000c00, 0x91a3a26e84dc293a45b089042402244110000c00,
  0x91a3a26ea4dc293c45b089042402244110000c00, 0x39a3b0000c00, 0x3ea3527ea45b02224110000c00,
  0x3ea3327ec45b0000c00, 0xa0a3b0000c00, 0xa1a3c0000c00, 0xa3a3d0000c00, 0x115a3d0000c00,
  0x158a3d0000c00, 0x35243a0000c00, 0x37a330000c00, 0x38a330000c00, 0x3aa330000c00, 0x3da330000c00,
  0x3ea330000c00, 0x3ea3e075241d0000c00, 0x91a330000c00]

/-- The rows of actions 2112 to 2175. -/
def rows33 : Array Nat := #[
  0x93a330000c00, 0x95a330000c00, 0x97a330000c00, 0x99a330000c00, 0x9aa330000c00,
  0x9da3f003e947075241d0000c00, 0x9fa3e075241d0000c00, 0xa2a330000c00, 0x128a330000c00,
  0x105a330000c00, 0x107a330000c00, 0x10ba330000c00, 0x10ca330000c00, 0x114a330000c00,
  0x117a330000c00, 0x119a330000c00, 0x15b64822a844502a1844b224442722424260000c00,
  0x15b64822a864502a1844b224442722424260000c00, 0x15b64822a8c4502a1844b224442722424260000c00,
  0x15b64822a924502a1844b224442722424260000c00, 0x153a330000c00, 0x155a330000c00, 0x159a330000c00,
  0x15aa330000c00, 0x186a330000c00, 0x187a330000c00, 0x1a2a330000c00, 0x14fa400000c00,
  0x150a400000c00, 0x1a1a400000c00, 0x3ba3a08625322aee45b08904240000c00,
  0x91a4127104dc296045b089642402284110000c00, 0x91a4127124dc296245b089642402284110000c00,
  0x91a4127144dc296445b089642402284110000c00, 0x39843a0000c00, 0x40843a0000c00,
  0x15b64822afc4502a1844b224442722424260000c00, 0x15b64822afe4502a1844b224442722424260000c00,
  0x15b64822b044502a1844b224442722424260000c00, 0x15b64822b0a4502a1844b224442722424260000c00,
  0x46243a0000c00, 0x49243a0000c00, 0x15b64822b524502a1844b224442722424260000c00,
  0x15b64822b544502a1844b224442722424260000c00, 0x15b64822b5a4502a1844b224442722424260000c00,
  0x15b64822b604502a1844b224442722424260000c00, 0x4c243a0000c00, 0x3da43a0000c00, 0x4fa43a0000c00,
  0x43843a0000c00, 0x1fa4229ce43422d842a22244272222426174440722d64050000c00,
  0x839c4078845c174c43d035e43b1aac43622b642401a24110000c00, 0x3da3507a45320000c00,
  0x168264315b64822a1844b0000c00, 0x38a3507a65320000c00,
  0xed9c4078845c175043d035e43b1ac043622b642401a24110000c00,
  0xed9c4078845c175243d035e43b1ac043622b642401a44110000c00,
  0xed9c4078845c175443d035e43b1ac243622b6424019c4110000c00,
  0x1d3a45003ba4401d38cf003b8cf2a4c45b088c4240000c00,
  0x15a460e3c44f001584f0b6644e001584e036a43b22b642401a44110000c00, 0x128a3507a45320000c00,
  0x1409c4078845c175c43d035e43b1ac843622b642401a24110000c00,
  0x1409c4078845c175e43d035e43b1ac843622b642401a44110000c00,
  0x1409c4078845c176043d035e43b1aca43622b6424019c4110000c00]

/-- The rows of actions 2176 to 2239. -/
def rows34 : Array Nat := #[
  0x1409c4078845c176243d035e43b1acc43622b6424019c4110000c00,
  0x1409c4078845c176443d035e43b1ada43622b6424019c4110000c00,
  0x1409c4078845c176643d035e43b1adc43622b6424019c4110000c00,
  0x17c9c4078845c176c43d035e43b1ae243622b642401a24110000c00,
  0x17c9c4078845c176e43d035e43b1ae443622b6424019c4110000c00,
  0x17c9c4078845c177043d035e43b1ae643622b6424019c4110000c00,
  0x17c9c4078845c177243d035e43b1b0843622b6424019c4110000c00,
  0x17c9c4078845c177443d035e43b1b0a43622b6424019c4110000c00,
  0x17c9c4078845c177643d035e43b1b1843622b6424019c4110000c00,
  0x17c9c4078845c177843d035e43b1b1a43622b6424019c4110000c00,
  0x19a9c4078845c177e43d035e43b1b1e43622b642401a24110000c00,
  0x19a9c4078845c178043d035e43b1b2043622b6424019c4110000c00,
  0x19a9c4078845c178243d035e43b1b4a43622b6424019c4110000c00,
  0x19a9c4078845c178443d035e43b1b4c43622b6424019c4110000c00,
  0x19a9c4078845c178643d035e43b1b6a43622b6424019c4110000c00,
  0x1af9c4078845c178c43d035e43b1b8643622b6424019c4110000c00,
  0x15a460d1244f001584f0b6644e001584e036a43b22b642401a44110000c00, 0x3ba3a2aee45b08904240000c00,
  0x3ea3a292e45b02244110000c00, 0x15a460d3c44f001584f0b6644e001584e036a43b22b642401a44110000c00,
  0x189064315b64822a1844b0000c00, 0x15a460ddc44f001584f0b6644e001584e036a43b22b642401a44110000c00,
  0xdd664315b64822a1844b0000c00, 0x15a46124444f001584f0b6644e001584e036a43b22b642401a44110000c00,
  0x17a264315b64822a1844b0000c00, 0xb8464315b64822a1844b0000c00, 0x1bf464315b64822a1844b0000c00,
  0x1a6264315b64822a1844b0000c00, 0x20aa6321a9c6311da64cf27a845c2aae45b078042402464070000c00,
  0x909c6078845c175643d22b642401a44110000c00, 0x96a47079e4370000c00,
  0x9ca4807a24de07a0438079e4370000c00, 0x9ea4907b04de0000c00,
  0x909c6012c45c175a43d22b642401a44110000c00, 0x1029c6078845c176843d22b642401a44110000c00,
  0x114a4807a24de07a0438079e4370000c00, 0x118a47079e4370000c00,
  0x1029c6078845c176a43d22b642401a44110000c00, 0x165a4807a24de07a0438079e4370000c00,
  0x166a4807a24de07a0438079e4370000c00, 0x14d9c6078845c177a43d22b642401a44110000c00,
  0x157a4807a24de07a0438079e4370000c00, 0x15aa4807a24de07a0438079e4370000c00,
  0x14d9c6078845c177c43d22b642401a44110000c00, 0x1849c6078845c178843d22b642401a44110000c00,
  0x1849c6078845c178a43d22b642401a44110000c00, 0x19f9c6078845c178e43d22b642401a44110000c00,
  0x19f9c6078845c179043d22b642401a44110000c00, 0x1b2a4807a24de07a0438079e4370000c00,
  0x3ba4107dc5322b6a45b08964240000c00, 0xb9a4a003e947292e45b02244110000c00, 0x38a3a08904240000c00,
  0x91a3a26e64dc293845b0000c00, 0x91a3a26ec4dc293e45b0000c00, 0x104a4b0000c00,
  0x110a4c00c285b0000c00, 0x112a4d0000c00, 0x113a4d0000c00, 0x110a4c00c385b0000c00, 0xb1a4b0000c00,
  0x125a4b0000c00, 0x162a4b0000c00, 0x14fa4e0000c00, 0x150a4e0000c00]

/-- The rows of actions 2240 to 2303. -/
def rows35 : Array Nat := #[
  0x1a1a4e0000c00, 0x20c66321a9c6311da64cf27a845c2aae45b078042402464070000c00,
  0x2a084a32a0644f2a0444e1a1443f22da42a2254427225242617ca4050000c00,
  0x29ce43422d842a22244272222426174440722d64050000c00,
  0xfd66321a9c6311daa4cf2ab045b078042402464070000c00, 0xb9a4f003e94727ea45b02224110000c00,
  0xed9c4078845c035e43b22b642401a24110000c00, 0x3b90c084245c2a4c45b283843d003b83d088c4240000c00,
  0x1409c4078845c035e43b22b642401a24110000c00, 0x1409c4078845c035e43b22b642401a44110000c00,
  0x1409c4078845c035e43b22b6424019c4110000c00, 0x1029c6078845c22b642401a44110000c00,
  0x15a46005d871005c8710015871036a43b22b642401a44110000c00,
  0x17c9c4078845c035e43b22b642401a24110000c00, 0x17c9c4078845c035e43b22b642401a44110000c00,
  0x17c9c4078845c035e43b22b6424019c4110000c00, 0x14d9c6078845c22b642401a44110000c00,
  0x19a9c4078845c035e43b22b642401a24110000c00, 0x19a9c4078845c035e43b22b6424019c4110000c00,
  0x1849c6078845c22b642401a44110000c00, 0x1af9c4078845c035e43b22b642401a24110000c00,
  0x1af9c4078845c035e43b22b6424019c4110000c00, 0x19f9c6078845c22b642401a44110000c00,
  0x1b69c4078845c035e43b22b6424019c4110000c00, 0x1b19c6078845c22b642401a44110000c00,
  0x39a500000c00, 0x3ea3a293045b0000c00, 0xa0a500000c00, 0xa1a510000c00, 0x3da3a08625320000c00,
  0x38a3a08645320000c00, 0xa3a520000c00, 0x128a3a08625320000c00, 0x115a520000c00, 0x158a520000c00,
  0x3ba412b6a45b08964240000c00, 0x3ea41295a45b02284110000c00,
  0x1592b0e3c44f001584f0b6644e001584e036a43b0000c00,
  0x1592b0d1244f001584f0b6644e001584e036a43b0000c00,
  0x1592b0ddc44f001584f0b6644e001584e036a43b0000c00,
  0x1592b0d3c44f001584f0b6644e001584e036a43b0000c00,
  0x1592b124444f001584f0b6644e001584e036a43b0000c00,
  0xc806321a9c6311daa4cf2ab045b078042402464070000c00, 0x10589302204110000c00,
  0x20ac6321a9c6311daa4cf2ab045b078042402464070000c00,
  0x20c86321a9c6311daa4cf2ab045b078042402464070000c00, 0x91a5323544dc283045b088c424022a4110000c00,
  0x91a5323564dc283245b088c424022a4110000c00, 0x91a5323584dc283445b088c424022a4110000c00,
  0x1d8865517c86541c52424023a4070000c00, 0x1c5865722c865622c444f29f244e225442722524260000c00,
  0x1d88655187c6541c52424023a4070000c00,
  0x2a384a323104a0001f87122da42a22544272252426230e4050000c00,
  0x2a084a32a5844f1a1443f22da42a2254427225242617ca4050000c00, 0x15a5822b642401a44110000c00,
  0x2a084a32a6a44f1a1443f22da42a2254427225242617ca4050000c00, 0x1599f0000c00,
  0xb9a4a003e947293045b0000c00, 0xc799f0000c00, 0x10589702204110000c00, 0x37a3a0000c00,
  0x38a3a0000c00, 0x3aa3a0000c00, 0x3da3a0000c00]

/-- The rows of actions 2304 to 2367. -/
def rows36 : Array Nat := #[
  0x3ea3a0000c00, 0x3ea59076441d0000c00, 0xb9a5a003e947295a45b02284110000c00, 0x8ea3a0000c00,
  0x91a3a0000c00, 0x93a3a0000c00, 0x95a3a0000c00, 0x96a5b07f64370000c00, 0x97a3a0000c00,
  0x99a3a0000c00, 0x9aa3a0000c00, 0x9ca5c08a84de07f843807f64370000c00,
  0x9da4a003e947076441d0000c00, 0x9ea5d08004de0000c00, 0x9fa59076441d0000c00, 0xa2a3a0000c00,
  0x103a3a0000c00, 0x105a3a0000c00, 0x107a3a0000c00, 0x10ba3a0000c00, 0x10ca3a0000c00,
  0x114a3a0000c00, 0x114a5c08a84de07f843807f64370000c00, 0x117a3a0000c00, 0x118a5b07f64370000c00,
  0x119a3a0000c00, 0x14ba3a0000c00, 0x153a3a0000c00, 0x155a3a0000c00,
  0x157a5c08a84de07f843807f64370000c00, 0x159a3a0000c00, 0x15aa3a0000c00,
  0x15aa5c08a84de07f843807f64370000c00, 0x182a3a0000c00, 0x186a3a0000c00, 0x187a3a0000c00,
  0x19ea3a0000c00, 0x1a2a3a0000c00, 0x1b2a5c08a84de07f843807f64370000c00, 0x128a3a0000c00,
  0x165a5c08a84de07f843807f64370000c00, 0x166a5c08a84de07f843807f64370000c00,
  0x38a4108964240000c00, 0xb1a5e0000c00, 0x91a4127104dc296045b0000c00,
  0x91a4127164dc296645b0000c00, 0x125a5e0000c00, 0x104a5e0000c00, 0x112a5f0000c00, 0x113a5f0000c00,
  0x162a5e0000c00, 0x110a6000c285b0000c00, 0x110a6000c385b0000c00,
  0x20e865518626541c52424023a4070000c00, 0x20e8655187c6541c52424023a4070000c00,
  0x211e65518666541c52424023a4070000c00, 0x211e655187c6541c52424023a4070000c00,
  0x2128655186a6541c52424023a4070000c00, 0x2128655187c6541c52424023a4070000c00,
  0x874532003b8fb2a4c45b088c4240000c00, 0x77e66102964de18b642a22b64240b284070000c00,
  0x77e66102964de18c042a22b64240b284070000c00, 0xfd46321a9c6311da64cf27a845c02464070000c00,
  0x77e66102964de18d042a22b64240b284070000c00]

/-- The rows of actions 2368 to 2431. -/
def rows37 : Array Nat := #[
  0x77e66102964de18d842a22b64240b284070000c00, 0x77e66102964de18de42a22b64240b344070000c00,
  0xb9a4f003e94727ec45b0000c00, 0x1d2a55187d65401d2a541c5342401d2824023b40701d28070000c00,
  0x1c5865722c8656233644f225442722524260000c00, 0x2b466200229c4078845c03a843b27904360000c00,
  0x2b4662002292428264920022892078845c035e43b27904360000c00,
  0x1c5865722c8656236444f225442722524260000c00,
  0x2a084a31a1443f22da42a2254427225242617ca4050000c00, 0x1592b005d871005c8710015871036a43b0000c00,
  0x3da4107dc5320000c00, 0xb9a4a08a84de07f843807f64370000c00, 0x38a4107de5320000c00,
  0x128a4107dc5320000c00, 0x10a63074a45c0000c00, 0x4ea63074a45c0000c00, 0x39a640000c00,
  0x3ea41295c45b0000c00, 0xa0a640000c00, 0xa1a650000c00,
  0x77e66102964de19d442a22b64240b344070000c00, 0xc7e6321a9c6311da64cf27a845c02464070000c00,
  0x77e66102964de19e442a22b64240b344070000c00, 0x20aa6321a9c6311da64cf27a845c02464070000c00,
  0x20c66321a9c6311da64cf27a845c02464070000c00, 0x77e66102964de19ce42a22b64240b284070000c00,
  0x77e66102964de19e042a22b64240b284070000c00, 0x3e8fb27ea45b02264110000c00,
  0x3ba5308525322a4c45b088c4240000c00, 0x77e66102964de19ec42a22b64240b284070000c00,
  0x77e66102964de19f842a22b64240b284070000c00, 0x77e66102964de22b64240b3a4070000c00,
  0xfd46321a9c6311da64cf02464070000c00, 0x77e66102964de22b64240b404070000c00, 0x64a660000c00,
  0x1599e0e3c44f0b6644e036a43b0000c00, 0x77e66102964de22b64240b284070000c00, 0x80a660000c00,
  0x10266321a9c6311dd64cf02464070000c00, 0x10286321a9c6311dd84cf02464070000c00,
  0x102a6321a9c6311dda4cf02464070000c00, 0x102c6321a9c6311ddc4cf02464070000c00,
  0x77e66102964de22b64240b444070000c00, 0xb9a4f07a24de07a0438079e4370000c00, 0xc6a660000c00,
  0xc8a660000c00, 0x2b466200229c4078845c03a843b0000c00,
  0x2b4662002292428264920022892078845c035e43b0000c00, 0x77e66102964de22b64240b344070000c00,
  0xeaa660000c00, 0x1ac066700ed9c4078845c035e43b0000c00, 0x21dc42721da4261d0442402464070000c00,
  0x10646321a9c6311e144cf02464070000c00, 0x1d6a681a9d63101d6a31024740701d68070000c00,
  0x10666321a9c6311e164cf02464070000c00, 0x1ac866701409c4078845c035e43b0000c00,
  0x1409c4078845c1ad043d035e43b1ace4360000c00, 0x1409c4078845c1ad443d035e43b1ad24360000c00,
  0x1409c4078845c1ad843d035e43b1ad64360000c00, 0x1c5865722c8656225442722524260000c00,
  0x1ae2667017c9c4078845c035e43b0000c00, 0x17c9c4078845c1aea43d035e43b1ae84360000c00,
  0x17c9c4078845c1aee43d035e43b1aec4360000c00, 0x17c9c4078845c1af243d035e43b1af04360000c00]

/-- The rows of actions 2432 to 2495. -/
def rows38 : Array Nat := #[
  0x17c9c4078845c1af643d035e43b1af44360000c00, 0x17c9c4078845c1afa43d035e43b1af84360000c00,
  0x17c9c4078845c1afe43d035e43b1afc4360000c00, 0x17c9c4078845c1b0243d035e43b1b004360000c00,
  0x17c9c4078845c1b0643d035e43b1b044360000c00, 0x17c9c4078845c1b0e43d035e43b1b0c4360000c00,
  0x17c9c4078845c1b1243d035e43b1b104360000c00, 0x17c9c4078845c1b1643d035e43b1b144360000c00,
  0x1b1e667019a9c4078845c035e43b0000c00, 0x19a9c4078845c1b2443d035e43b1b224360000c00,
  0x19a9c4078845c1b2843d035e43b1b264360000c00, 0x19a9c4078845c1b2c43d035e43b1b2a4360000c00,
  0x19a9c4078845c1b3043d035e43b1b2e4360000c00, 0x19a9c4078845c1b3443d035e43b1b324360000c00,
  0x19a9c4078845c1b3843d035e43b1b364360000c00, 0x19a9c4078845c1b3c43d035e43b1b3a4360000c00,
  0x19a9c4078845c1b4043d035e43b1b3e4360000c00, 0x19a9c4078845c1b4443d035e43b1b424360000c00,
  0x19a9c4078845c1b4843d035e43b1b464360000c00, 0x19a9c4078845c1b5043d035e43b1b4e4360000c00,
  0x19a9c4078845c1b5443d035e43b1b524360000c00, 0x19a9c4078845c1b5843d035e43b1b564360000c00,
  0x19a9c4078845c1b5c43d035e43b1b5a4360000c00, 0x19a9c4078845c1b6043d035e43b1b5e4360000c00,
  0x19a9c4078845c1b6443d035e43b1b624360000c00, 0x19a9c4078845c1b6843d035e43b1b664360000c00,
  0x1b6c66701af9c4078845c035e43b0000c00, 0x1af9c4078845c1b7043d035e43b1b6e4360000c00,
  0x1af9c4078845c1b7443d035e43b1b724360000c00, 0x1af9c4078845c1b7843d035e43b1b764360000c00,
  0x1af9c4078845c1b7c43d035e43b1b7a4360000c00, 0x1af9c4078845c1b8043d035e43b1b7e4360000c00,
  0x1af9c4078845c1b8443d035e43b1b824360000c00, 0x1af9c4078845c1b8a43d035e43b1b884360000c00,
  0x1af9c4078845c1b8e43d035e43b1b8c4360000c00, 0x1af9c4078845c1b9243d035e43b1b904360000c00,
  0x1af9c4078845c1b9643d035e43b1b944360000c00, 0x1af9c4078845c1b9a43d035e43b1b984360000c00,
  0x1b69c4078845c1b9e43d035e43b1b9c4360000c00, 0x1b69c4078845c1ba243d035e43b1ba04360000c00,
  0x10a5a074445c0000c00, 0x4ea5a074445c0000c00, 0x1599e0d3c44f0b6644e036a43b0000c00,
  0x128a410000c00, 0x165a6908ac4de0830438082e4370000c00, 0x166a6908ac4de0830438082e4370000c00,
  0x1599e0d1244f0b6644e036a43b0000c00, 0xb9a5a003e947295c45b0000c00,
  0x1599e0ddc44f0b6644e036a43b0000c00, 0x1599e123044f0b6644e036a43b0000c00, 0x37a410000c00,
  0x38a410000c00, 0x3aa410000c00, 0x3da410000c00, 0x3ea410000c00, 0x3ea6a077041d0000c00,
  0x8ea410000c00, 0x91a410000c00, 0x93a410000c00, 0x95a410000c00, 0x96a6b082e4370000c00,
  0x97a410000c00, 0x99a410000c00, 0x9ca6908ac4de0830438082e4370000c00]

/-- The rows of actions 2496 to 2559. -/
def rows39 : Array Nat := #[
  0x9da5a003e947077041d0000c00, 0x9ea6c08344de0000c00, 0x9fa6a077041d0000c00, 0xa3a410000c00,
  0x103a410000c00, 0x105a410000c00, 0x107a410000c00, 0x10ba410000c00, 0x10ca410000c00,
  0x114a410000c00, 0x114a6908ac4de0830438082e4370000c00, 0x117a410000c00, 0x118a6b082e4370000c00,
  0x119a410000c00, 0x115a410000c00, 0x14ba410000c00, 0x153a410000c00, 0x155a410000c00,
  0x157a6908ac4de0830438082e4370000c00, 0x159a410000c00, 0x15aa410000c00,
  0x15aa6908ac4de0830438082e4370000c00, 0x158a410000c00, 0x182a410000c00, 0x186a410000c00,
  0x187a410000c00, 0x19ea410000c00, 0x1a2a410000c00, 0x1b2a6908ac4de0830438082e4370000c00,
  0x9aa410000c00, 0xa2a410000c00, 0x40a410000c00, 0x1599e131044f0b6644e036a43b0000c00,
  0xa5a410000c00, 0xc7e6321a9c6311da64cf02464070000c00, 0xcda6321a9c6311dd64cf02464070000c00,
  0xcdc6321a9c6311dd84cf02464070000c00, 0xcde6321a9c6311dda4cf02464070000c00,
  0xce06321a9c6311ddc4cf02464070000c00, 0xcfa6321a9c6311e144cf02464070000c00,
  0xcfc6321a9c6311e164cf02464070000c00, 0x20aa6321a9c6311da64cf02464070000c00,
  0x20b26321a9c6311dd64cf02464070000c00, 0x20b46321a9c6311dd84cf02464070000c00,
  0x20b66321a9c6311dda4cf02464070000c00, 0x20b86321a9c6311ddc4cf02464070000c00,
  0x20be6321a9c6311e144cf02464070000c00, 0x20c06321a9c6311e164cf02464070000c00,
  0x20c66321a9c6311da64cf02464070000c00, 0x20ce6321a9c6311dd64cf02464070000c00,
  0x20d06321a9c6311dd84cf02464070000c00, 0x20d26321a9c6311dda4cf02464070000c00,
  0x20d46321a9c6311ddc4cf02464070000c00, 0x20da6321a9c6311e144cf02464070000c00,
  0x20dc6321a9c6311e164cf02464070000c00, 0x3ea5327ea45b022a4110000c00,
  0x29d44331a1242a01fe41d0e324070000c00, 0xfa06321d864cf18724ce158642a29e840d0000c00,
  0x229c4078845c035e43b27904360000c00, 0x2a384a322da42a22544272252426230e4050000c00,
  0x1592445155042a22f64090000c00, 0x14266f1c5066e21ca66d0e704280000c00,
  0x7b867207b667107b4670078845c0000c00, 0x10589c02164110000c00]

/-- The rows of actions 2560 to 2623. -/
def rows40 : Array Nat := #[
  0x1969c608a84de07f843807f64370000c00, 0x1979c608a84de07f843807f64370000c00,
  0x1989c608a84de07f843807f64370000c00, 0xc2a730000c00, 0xc3a730000c00,
  0xb9a5a08ac4de0830438082e4370000c00, 0x139c62b6645b00384070000c00, 0x139c62b6845b00384070000c00,
  0x40a740000c00, 0xa5a740000c00, 0xb1a750000c00, 0x125a750000c00, 0x162a750000c00,
  0xc586321d864cf18a24ce158a42a29e840d0000c00, 0xe9c4450d4a42a22f64090000c00,
  0x14266f1d0266e21ca66d0ce44280000c00, 0x16f244515b042a22f64090000c00,
  0x14266f1d0266e21ca66d10e64280000c00, 0xbc44450b5e42a22f64090000c00,
  0x14266f1d0266e21ca66d0f3a4280000c00, 0x1842445164842a22f64090000c00,
  0x14266f1d0266e21ca66d11064280000c00, 0x14266f1c5066e21ca66d12424280000c00,
  0x14266f1d0266e21ca66d13244280000c00, 0x14266f1d0266e21ca66d0f4e4280000c00,
  0x2b764331a1242a01fe41d0e324070000c00, 0x87453201288fb0000c00, 0x159244517be42a22f64090000c00,
  0x874532003d8fb0000c00, 0x87653200388fb0000c00, 0x1a1242a01fe41d0e324070000c00,
  0x1c4e4341d8442a22b6424019c4110000c00, 0x22be4dc277445b078042402164110000c00,
  0x23c45c1d9243d22b6424019c4110000c00, 0x1c5e4341d9442a22b6424019c4110000c00,
  0x229c4078845c035e43b0000c00, 0x25867037c43b002583b0000c00, 0x259890000c00,
  0x28a76084245c1c6243d039a43b0000c00, 0x77e66102964de0b284070000c00,
  0x1c664341da042a22b6424019c4110000c00, 0x2a2645b05c842a224442722424260000c00,
  0x21ac4de0a6848127304240000c00, 0x48a77078042402164110000c00,
  0x1599e005d871005c871036a43b0000c00, 0x1c764341dbe42a22b6424019c4110000c00, 0x1aa780000c00,
  0x33a780000c00, 0x188042a01fe41d0e324070000c00, 0x188242a01fe41d0e324070000c00,
  0x79667a003ca79079443b0000c00, 0x77e66102964de0b3a4070000c00, 0x79667a0092a79079443b0000c00,
  0x1c9a7b27a845c18e443b0000c00, 0x22be4dc27fc45b078042402164110000c00,
  0x77e66102964de0b404070000c00, 0x37045c1d9243d22b6424019c4110000c00, 0x5ba780000c00,
  0x77e66102964de0b344070000c00, 0xed9c4078845c035e43b0000c00, 0x77e66102964de0b444070000c00,
  0x1218812b4445b21de44e08944240000c00, 0x22be4dc277445b088c42402164110000c00, 0xc7a7c0000c00]

/-- The rows of actions 2624 to 2687. -/
def rows41 : Array Nat := #[
  0x1599e286244f11e044e0000c00, 0x1409c4078845c035e43b0000c00, 0x1019c6078845c0000c00,
  0x17c9c4078845c035e43b0000c00, 0x14c9c6078845c0000c00, 0x19a9c4078845c035e43b0000c00,
  0x1839c6078845c0000c00, 0x1af9c4078845c035e43b0000c00, 0x1b69c4078845c035e43b0000c00,
  0x1bf9c4078845c035e43b0000c00, 0x4da7d038244e0000c00, 0x64a780000c00, 0x80a780000c00,
  0xb6a7d038344e00b684e0000c00, 0xc6a780000c00, 0xc8a780000c00, 0xeaa780000c00,
  0xef9c600244070000c00, 0x13f9c600244070000c00, 0x1799c600244070000c00, 0x1999c600244070000c00,
  0x1ae9c600244070000c00, 0x1b59c600244070000c00, 0x1be9c600244070000c00, 0x1c29c600244070000c00,
  0x24a7e0000c00, 0x73a7e0000c00, 0xe0a7e0000c00, 0x13ba7e0000c00, 0x139c600384070000c00,
  0xc2a7f0000c00, 0xc3a7f0000c00, 0x22be4dc28a845b078042402204110000c00,
  0x2c4a45b1a3a42a222442722224260000c00, 0x21ac4de0a7e48127304240000c00,
  0x48a77078042402204110000c00, 0x22be4dc28e245b078042402204110000c00,
  0x22be4dc28a845b088c42402204110000c00, 0x128a5308525320000c00,
  0x22be4dc293445b078042402204110000c00, 0x22be4dc295e45b078042402164110000c00,
  0x22be4dc296845b078042402204110000c00, 0x22be4dc28a845b089042402164110000c00,
  0x22be4dc296a45b078042402164110000c00, 0x1d5a434213842a22b6424019c4110000c00,
  0x1d5e434214242a22b6424019c4110000c00, 0x3da5308525320000c00, 0x38a5308545320000c00,
  0x114a8008b04de087243808704370000c00, 0x118a8108704370000c00,
  0x165a8008b04de087243808704370000c00, 0x166a8008b04de087243808704370000c00,
  0x157a8008b04de087243808704370000c00, 0x15aa8008b04de087243808704370000c00,
  0x1b2a8008b04de087243808704370000c00, 0x22be4dc294e45b078042402204110000c00,
  0x1d72434213242a22b6424019c4110000c00, 0x2586703ee43b002583b0000c00,
  0x1d74434213a42a22b6424019c4110000c00, 0x2a2645b226e42a224442722424260000c00,
  0x6286703ee43b0000c00, 0x96a8108704370000c00, 0x9ca8008b04de087243808704370000c00,
  0x9ea82087a4de0000c00]

/-- The rows of actions 2688 to 2751. -/
def rows42 : Array Nat := #[
  0x1d78434215442a22b6424019c4110000c00, 0x1d7a434215842a22b6424019c4110000c00,
  0x1c50683029866f0fa24280000c00, 0x10a84071a45c0000c00, 0x29ee4311d7c42d187441e147a4040000c00,
  0x5c842a224442722424260000c00, 0x1da242a22b6424019c4110000c00, 0x1c6a683029866f0fda4280000c00,
  0x20a66321d864cf18a64ce16c242a0000c00, 0x4ea84071a45c0000c00, 0x2a30656224442722424260000c00,
  0x2306656225442722524260000c00, 0x15a850000c00, 0x1dbc43d22b6424019c4110000c00,
  0x1dc042a22b6424019c4110000c00, 0x2aa6862a404a3066644f0000c00, 0x74a76084245c039a43b0000c00,
  0x7a24de079c44e07a0438079e43700888070000c00, 0x1dd042a22b6424019c4110000c00,
  0x1cca7b18e643b0000c00, 0x1c6b68300a9a83029966f00a9a6f00a98280000c00,
  0xa084642a2445b078042402224110000c00, 0x7a24de1c8e4cf075444e07a0438079e4370000c00,
  0x2804656224442722424260000c00, 0x1df043d22b6424019c4110000c00, 0x1599e005c8710000c00,
  0x1df242a22b6424019c4110000c00, 0x2aa6862a404a3069844f0000c00, 0x21cc42a020641d0f544070000c00,
  0x234242a01fe41d0e324070000c00, 0x234642a020641d0f544070000c00, 0x1dfe43d22b642401a24110000c00,
  0xefa87003a4070000c00, 0xab85c405525250000c00, 0x8b04de009486f283c43d087243808704370000c00,
  0x1d3a880000c00, 0x10fa8907a24de07a0438079e4370000c00, 0x12288121de44e08944240000c00,
  0xa3a8a0000c00, 0x284c656224442722424260000c00, 0x1e1c43d22b6424019c4110000c00,
  0x2ab686013aa862a414a3013a8a3013a84f0000c00, 0x13fa87003a4070000c00,
  0x1e2443d22b642401a24110000c00, 0x1e2a43d22b642401a44110000c00, 0x1e3e43d22b642401a44110000c00,
  0xaba5c405545250000c00, 0x116a8b07a24de07a0438079e4370000c00, 0x115a8a0000c00,
  0x1e5243d22b6424019c4110000c00, 0x179a87003a4070000c00, 0x1e5443d22b642401a24110000c00,
  0x1e5c43d22b642401a44110000c00, 0xabc5c405565250000c00, 0x1e9e43d22b642401a44110000c00,
  0xb1d5c4014e9c4014e9250000c00, 0x189a8c2b4445b08944240000c00, 0x158a8a0000c00,
  0x1eac43d22b6424019c4110000c00, 0x199a87003a4070000c00, 0x1eb443d22b642401a24110000c00,
  0x1eba43d22b642401a44110000c00, 0x1f2c43d22b642401a44110000c00, 0x1f3643d22b6424019c4110000c00]

/-- The rows of actions 2752 to 2815. -/
def rows43 : Array Nat := #[
  0x1aea87003a4070000c00, 0x1f3843d22b642401a24110000c00, 0x1fb043d22b642401a44110000c00,
  0x1b5a87003a4070000c00, 0x1fbe43d22b642401a24110000c00, 0x1ff643d22b642401a44110000c00,
  0x1bea87003a4070000c00, 0x200643d22b642401a44110000c00, 0x1c2a87003a4070000c00, 0x24a8d0000c00,
  0x73a8d0000c00, 0xe0a8d0000c00, 0x13ba8d0000c00, 0x4ea630000c00, 0xbaa630000c00, 0xbba630000c00,
  0xbca630000c00, 0x8ea530000c00, 0x103a530000c00, 0x14ba530000c00, 0x182a530000c00,
  0x19ea530000c00, 0x1d02683029866f0c5c4280000c00, 0x1a3a42a222442722224260000c00,
  0x1c6a683029866f0c824280000c00, 0x20c26321d864cf18a84ce174242a0000c00,
  0x14d04642a2445b078042402224110000c00, 0x7a24de0ec04cf076044e07a0438079e4370000c00,
  0x210843d22b642401a44110000c00, 0xac25c40ec25250000c00, 0x211043d22b642401a44110000c00,
  0xac45c40ef25250000c00, 0x114a8e08ae4de0850438084e4370000c00, 0x118a8f084e4370000c00,
  0x165a8e08ae4de0850438084e4370000c00, 0x166a8e08ae4de0850438084e4370000c00,
  0x211643d22b642401a44110000c00, 0xac65c40f125250000c00, 0x157a8e08ae4de0850438084e4370000c00,
  0x15aa8e08ae4de0850438084e4370000c00, 0x211843d22b642401a44110000c00,
  0x211a43d22b642401a44110000c00, 0x211c43d22b642401a44110000c00,
  0x1b2a8e08ae4de0850438084e4370000c00, 0x7a24de0ba44cf076644e07a0438079e4370000c00,
  0xac85c418045250000c00, 0xaca5c4181c5250000c00, 0xacc5c4182a5250000c00,
  0x7a24de15c24cf076c44e07a0438079e4370000c00, 0xace5c40be45250000c00, 0xad05c40c125250000c00,
  0xad25c40c305250000c00, 0x7a24de17a04cf077244e07a0438079e4370000c00, 0xad45c4198c5250000c00,
  0xad65c419a65250000c00, 0xad85c419b65250000c00, 0x7a24de267e4cf077644e07a0438079e4370000c00,
  0xada5c41cf45250000c00, 0xadc5c41cf65250000c00, 0xade5c41cf85250000c00,
  0x7a24de198a4cf077a44e07a0438079e4370000c00, 0x29ee4311d7c42d18ac41e14904040000c00,
  0x214043d22b6424019c4110000c00, 0x214442a22b6424019c4110000c00]

/-- The rows of actions 2816 to 2879. -/
def rows44 : Array Nat := #[
  0x214843d22b6424019c4110000c00, 0x214a42a22b6424019c4110000c00, 0x96a8f084e4370000c00,
  0x9ca8e08ae4de0850438084e4370000c00, 0x9ea9008584de0000c00, 0x214c43d22b6424019c4110000c00,
  0x214e43d22b6424019c4110000c00, 0x215043d22b6424019c4110000c00, 0x215243d22b6424019c4110000c00,
  0x226e42a224442722424260000c00, 0x213c42a22b6424019c4110000c00, 0x214642a22b6424019c4110000c00,
  0x29ee4311d7c42d18ac41e14a04040000c00, 0x215a42a22b6424019c4110000c00,
  0x215c42a22b6424019c4110000c00, 0x95a42a22bc4110000c00, 0x29ee4311d7c42d29f841e0000c00,
  0x1b99e033646d0000c00, 0x269c20000c00, 0x22b642401a24110000c00, 0x1c4a910000c00,
  0xfec4cf27b44ce230242a0000c00, 0x4a3429d045b29f442a0000c00, 0x29ee4311d7c42d187441e0000c00,
  0x62a92037c43b0000c00, 0x22b6424019c4110000c00, 0x1585c1aa844f0fb244e036a43b0000c00,
  0x6b9c4035e43b0000c00, 0x719c20000c00, 0x79a66f1dce66d15e04280000c00,
  0x6726930670492067441200284070000c00, 0x1c8a910000c00, 0x1cba7b0000c00, 0x1cda910000c00,
  0xa4a940000c00, 0x21ac4de0a684810000c00, 0x71a45c071c44000108400000c00, 0x1cfa910000c00,
  0x6726930670492067441200384070000c00, 0x8a84de068649e07f843807f64370000c00, 0xe29c20000c00,
  0xed9c4035e43b0000c00, 0x8f9c60000c00, 0x79a66f1e0e66d15f64280000c00,
  0x6a469306a249206a641200284070000c00, 0x10ea7907a24de07a0438079e4370000c00, 0x1d4a910000c00,
  0x1d7a910000c00, 0x11aa940000c00, 0x6b044f148644e039a43b0000c00, 0x25a95084245c0000c00,
  0x71a45c07ae44000108400000c00, 0x71a45c071e440004e8400000c00, 0x1d9a910000c00,
  0x6a469306a249206a641200384070000c00, 0x8a84de06bc49e07f843807f64370000c00,
  0x6b9c402b846e02b646d0000c00, 0x13c9c20000c00, 0x1409c4035e43b0000c00, 0xef9c60000c00,
  0x1029c60000c00, 0x7a24de010886f07a0438079e4370000c00, 0x3e947238844f075241d0000c00,
  0x79b66f010da6f1e0f66d010da6d010d8280000c00]

/-- The rows of actions 2880 to 2943. -/
def rows45 : Array Nat := #[
  0x1dca7b0000c00, 0x1dda7b0000c00, 0x1dea910000c00, 0x1e0a910000c00, 0x15ba940000c00,
  0x71a45c07be440004e8400000c00, 0x1789c20000c00, 0x8ae4de07c44a0017a8590850438084e4370000c00,
  0x17b9c60000c00, 0x17c9c4035e43b0000c00, 0x22b642401a44110000c00, 0x13f9c60000c00,
  0x14c9c60000c00, 0x14d9c60000c00, 0x14e9c60000c00, 0x1e2a7b0000c00,
  0x8a84de06e649e07f843807f64370000c00, 0x18aa8c08944240000c00, 0x19a9c4035e43b0000c00,
  0x19b9c60000c00, 0x1799c60000c00, 0x1839c60000c00, 0x1849c60000c00, 0x1e5a7b0000c00,
  0x1ab9c60000c00, 0x1ad9c60000c00, 0x1af9c4035e43b0000c00, 0x1999c60000c00, 0x19f9c60000c00,
  0x1a09c60000c00, 0x1b79c60000c00, 0x1b89c60000c00, 0x1b69c4035e43b0000c00, 0x1ae9c60000c00,
  0x1b19c60000c00, 0x1bc9c60000c00, 0x1bd9c60000c00, 0x1bf9c4035e43b0000c00, 0x1b59c60000c00,
  0x1ba9c60000c00, 0x1c19c4035e43b0000c00, 0x1be9c60000c00, 0x1c29c60000c00, 0xb9c60000c00,
  0x129c60000c00, 0x469c60000c00, 0x479c60000c00, 0x4ea5a0000c00, 0x529c60000c00, 0x1aa960000c00,
  0x33a960000c00, 0x6c9c60000c00, 0x6d9c60000c00, 0xae9c60000c00, 0xaf9c60000c00, 0xb09c60000c00,
  0xbaa5a0000c00, 0xbba5a0000c00, 0x1cfa7b0000c00, 0xbca5a0000c00, 0xbf9c60000c00, 0x859c60000c00,
  0x5ba960000c00, 0xd89c60000c00]

/-- The rows of actions 2944 to 3007. -/
def rows46 : Array Nat := #[
  0xd99c60000c00, 0xda9c60000c00, 0xfb9c60000c00, 0x1209c60000c00, 0x1239c60000c00,
  0x1249c60000c00, 0x1d9a7b0000c00, 0x12b9c60000c00, 0xf29c60000c00, 0x12a9c60000c00,
  0x12f9c60000c00, 0x1369c60000c00, 0x1479c60000c00, 0x1499c60000c00, 0x15c9c60000c00,
  0x15f9c60000c00, 0x1609c60000c00, 0x16a9c60000c00, 0x1439c60000c00, 0x1689c60000c00,
  0x16d9c60000c00, 0x1819c60000c00, 0x1809c60000c00, 0x1889c60000c00, 0x18b9c60000c00,
  0x18f9c60000c00, 0x18d9c60000c00, 0x19d9c60000c00, 0x1a39c60000c00, 0x1a49c60000c00,
  0x1a69c60000c00, 0x1c5a910000c00, 0x1c7a910000c00, 0x1caa910000c00, 0x1cea910000c00,
  0x1d0a910000c00, 0x1d1a910000c00, 0x1d5a910000c00, 0x1d8a910000c00, 0x1daa910000c00,
  0x1dba910000c00, 0x1dfa910000c00, 0x1e1a910000c00, 0x1c5a7b0000c00, 0x1c7a7b0000c00,
  0x1caa7b0000c00, 0x1cea7b0000c00, 0x1d0a7b0000c00, 0x1d1a7b0000c00, 0x1d5a7b0000c00,
  0x1d8a7b0000c00, 0x1daa7b0000c00, 0x1dba7b0000c00, 0x1dfa7b0000c00, 0x1e1a7b0000c00,
  0x149c60000c00, 0x599c60000c00, 0x110a9700c285b0000c00, 0x110a9700c385b0000c00,
  0x13cc42a27324110000c00, 0xcb04cf28c04ce26b242a0000c00, 0x1585c203e44f0fb244e036a43b0000c00,
  0x79a66f20f866d0eae4280000c00, 0x67269306704920674412002c4070000c00]

/-- The rows of actions 3008 to 3071. -/
def rows47 : Array Nat := #[
  0x21ac4de0a7e4810000c00, 0x71a45c073844000108400000c00, 0x20486932046492204a41200384070000c00,
  0x8a84de206449e07f843807f64370000c00, 0x79a66f1e0e66d0ed44280000c00,
  0x6a469306a249206a6412002c4070000c00, 0x207644f149444e039a43b0000c00,
  0x71a45c07fe44000108400000c00, 0x71a45c073a440004e8400000c00,
  0x206a6932068492206c41200384070000c00, 0xfc9c9206e4920000c00,
  0x8a84de208649e07f843807f64370000c00, 0x71a45c0802440004e8400000c00, 0x1499c920884920000c00,
  0x14a9c9208a4920000c00, 0x8a84de209e49e07f843807f64370000c00, 0x1809c9209c4920000c00,
  0x20ae4cf29264ce26dc42a0000c00, 0x79a66f212466d17f64280000c00,
  0x20486932046492204a412002c4070000c00, 0x79a66f1e0e66d18104280000c00,
  0x206a6932068492206c412002c4070000c00, 0x20ca4cf29444ce26f642a0000c00,
  0x79a66f212c66d0bd24280000c00, 0x79a66f1e0e66d0bf64280000c00, 0x79a66f213066d19804280000c00,
  0x79a66f1e0e66d19984280000c00, 0x29ee4311d7c42d18ac41e0000c00, 0x2bec4311d7c42d18b441e0000c00,
  0x2bec4311d7c42d2b7c41e0000c00, 0x71a45c074c44000108400000c00, 0x71a45c087844000108400000c00,
  0x71a45c074e440004e8400000c00, 0x71a45c087e440004e8400000c00, 0x4a3429d045b2bee42a0000c00,
  0x21826980b564260000c00, 0x21846990b564270000c00, 0x22c269a062649e0000c00, 0x4a3429d045b0000c00,
  0x1d7c42d187641e0000c00, 0x62849e278a40a0000c00, 0x62a49e278a40a0000c00, 0x62e49e1a9044e0000c00,
  0x63049e1a9044e0000c00, 0x18c2459020e44e036043b0000c00, 0x21a86980b584260000c00,
  0x21aa6990b584270000c00, 0x4d89e033c44e0000c00, 0x22c269a065249e0000c00, 0x15a2802a24400000c00,
  0x15a2802a44400000c00, 0x65449e278a40a0000c00, 0x65649e278a40a0000c00,
  0x658492065a412278a40a0000c00, 0x29ce43417444070000c00, 0x65e49e1a9044e0000c00,
  0x66049e1a9044e0000c00, 0x75a76039a43b0000c00, 0x7da9b021944e007d84e0000c00, 0x14106870000c00,
  0x87a9c02b244e0000c00, 0x9ba79079443b0000c00, 0x1dde4cf1a9642a29e840d0000c00,
  0x21a969800a6a9800a68260000c00]

/-- The rows of actions 3072 to 3135. -/
def rows48 : Array Nat := #[
  0x21ab69900a7a9900a78270000c00, 0x1ab042a0000c00, 0xb689e033d44e00b684e0000c00,
  0x5d871001585c036a43b0000c00, 0x688492068a412278a40a0000c00, 0xd789e1a9144e00d784e0000c00,
  0xe3a76039a43b0000c00, 0xf4a9c02b244e0000c00, 0x1d7c42d149c4040000c00, 0x88c42402224110000c00,
  0x7a24de15f246407a0438079e4370000c00, 0x106a79079443b0000c00, 0x1e184cf1a9642a29e840d0000c00,
  0x11ca9d0000c00, 0x12288121de44e0000c00, 0x98a9e0043a9e0043a6e0000c00, 0x2b466203aa43b0000c00,
  0x145a9c02b344e014584e0000c00, 0x3e947238844f0000c00, 0x8b04de07c243d087243808704370000c00,
  0x116a9f079d44e011684e0000c00, 0x7a24de160a45907a0438079e4370000c00, 0x21e86a01e4c4260000c00,
  0x21ea6a11e4c4270000c00, 0x1cb842a0000c00, 0x15d88121de44e0000c00, 0x15e88121de44e0000c00,
  0x7a24de1a2045907a0438079e4370000c00, 0x7a24de1a2245907a0438079e4370000c00,
  0x21f66a01eaa4260000c00, 0x21f86a11eaa4270000c00, 0x18a88121df44e018a84e0000c00,
  0x18c871039a43b0000c00, 0x7a24de1a2c45907a0438079e4370000c00,
  0x7a24de1a2e45907a0438079e4370000c00, 0x7a24de07cc45c07a0438079e4370000c00,
  0x21f76a001e6aa001e68260000c00, 0x21f96a101e7aa101e78270000c00,
  0x7a24de01ac85907a0438079e4370000c00, 0x7a24de1a3045907a0438079e4370000c00,
  0x7a24de1a3245907a0438079e4370000c00, 0x220c69801ec4260000c00, 0x220e69901ec4270000c00,
  0x22c269a201a49e0000c00, 0x202049e1a9044e0000c00, 0x202249e1a9044e0000c00,
  0x1ba8459020e44e036043b0000c00, 0x21a869801f04260000c00, 0x21aa69901f04270000c00,
  0x22c269a203a49e0000c00, 0x204049e1a9044e0000c00, 0x204249e1a9044e0000c00,
  0x26764cf1a9642a29e840d0000c00, 0x86a42402164110000c00, 0x7a24de0ed046407a0438079e4370000c00,
  0x26784cf1a9642a29e840d0000c00, 0x7a24de0f0a45907a0438079e4370000c00,
  0x7a24de07ea45c07a0438079e4370000c00, 0x222669815ac4260000c00, 0x222869915ac4270000c00,
  0x21a869815ae4260000c00, 0x21aa69915ae4270000c00, 0x89042402244110000c00,
  0x7a24de180c46407a0438079e4370000c00]

/-- The rows of actions 3136 to 3199. -/
def rows49 : Array Nat := #[
  0x7a24de182445907a0438079e4370000c00, 0x7a24de080845c07a0438079e4370000c00,
  0x22366980b724260000c00, 0x22386990b724270000c00, 0x21a86980b7c4260000c00,
  0x21aa6990b7c4270000c00, 0x88842402204110000c00, 0x7a24de0bf246407a0438079e4370000c00,
  0x7a24de0c2a45907a0438079e4370000c00, 0x7a24de082245c07a0438079e4370000c00,
  0x224669805484260000c00, 0x224869905484270000c00, 0x21a8698054a4260000c00,
  0x21aa699054a4270000c00, 0x89642402284110000c00, 0x7a24de199446407a0438079e4370000c00,
  0x7a24de19ae45907a0438079e4370000c00, 0x7a24de083c45c07a0438079e4370000c00,
  0x22566981a3e4260000c00, 0x22586991a3e4270000c00, 0x21a86981a404260000c00,
  0x21aa6991a404270000c00, 0x225e69819c84260000c00, 0x226069919c84270000c00,
  0x21a869819cc4260000c00, 0x21aa69919cc4270000c00, 0x4a342a9e45b0000c00, 0x1d7c42d18a441e0000c00,
  0x88c424022a4110000c00, 0x7a24de086045c07a0438079e4370000c00, 0x2aae45b001381400244070000c00,
  0x2ab045b001381400244070000c00, 0x8b04de088243d087243808704370000c00,
  0x7a24de088645c07a0438079e4370000c00, 0x8b04de088a43d087243808704370000c00,
  0x8b04de088e43d087243808704370000c00, 0x8b04de089243d087243808704370000c00,
  0x8b04de08a243d087243808704370000c00, 0x8b04de08a643d087243808704370000c00,
  0x276241302004110000c00, 0x61449e276442a0000c00, 0x61649e276642a0000c00, 0x22c269a1c564a00000c00,
  0x229e42a17c64070000c00, 0x78643b22b64240000c00, 0x18bc44f0fb244e0000c00, 0xfb444f11e044e0000c00,
  0x20a4222de43b0000c00, 0x24aa20000c00, 0x22e4464019e44e0000c00, 0x18c2459020e44e0000c00,
  0xfc4459021844e0000c00, 0x1a9642a29e840d0000c00, 0x77e66100358070000c00, 0x1dac4cf21a644e0000c00,
  0x1c6c42a0000c00, 0x48a770000c00, 0xa0442b0a0242a02a841d0000c00, 0x222442722224260000c00,
  0x55aa30000c00, 0x230844f187e44e0000c00, 0x1c704a000568710000c00, 0xff244f11e044e0000c00,
  0x18d444f0fb244e0000c00]

/-- The rows of actions 3200 to 3263. -/
def rows50 : Array Nat := #[
  0x18d644f0fb244e0000c00, 0xff644f11e044e0000c00, 0x5f84f11e144e005f84e0000c00,
  0x5e84f0fb344e005e84e0000c00, 0x1faa40000c00, 0x20a422a3643b0000c00, 0x548a000208710000c00,
  0x2a3a44f17cc44e0000c00, 0x2a3c6a5231642a0000c00, 0x6b9c40000c00, 0x2ae662037c43b0000c00,
  0x73aa20000c00, 0x232046401a044e0000c00, 0x1c7e41100244070000c00, 0x7d89b0000c00,
  0x7e86f036043b0000c00, 0x1008459021844e0000c00, 0x18e0459020e44e0000c00,
  0x7e859020f44e007e84e0000c00, 0x14105c40000c00, 0x4aa60000c00, 0x27e845b02224110000c00,
  0x1dde4cf21c444e0000c00, 0xa684810000c00, 0xdaa464021844e0000c00, 0x10324cf27a845c2aae45b0000c00,
  0xbeaa70000c00, 0x1c904a000c08710000c00, 0xc1aa30000c00, 0x233644f188444e0000c00,
  0xcc871036043b0000c00, 0x233a4a0001f8710000c00, 0x281e42a22d64050000c00, 0x282042a22d64050000c00,
  0x2a5844f17d044e0000c00, 0x69049e2b6645b0000c00, 0x69049e2b6845b0000c00, 0xd69c40000c00,
  0xd79c40000c00, 0xe0aa20000c00, 0xe186401bb44e00e184e0000c00, 0xed9c40000c00,
  0x15f445906a044e0000c00, 0x7a24de07a0438079e4370000c00, 0x79c44e00f58070000c00,
  0x11b8cf235f44e011b84e0000c00, 0x6b244f148844e0000c00, 0xdb4464021844e0000c00,
  0x1ca64cf075644e0000c00, 0x12caa30000c00, 0x12d84f18f944e012d84e0000c00, 0x285e42a22d64050000c00,
  0x286042a22d64050000c00, 0x13584f188744e013584e0000c00, 0x224442722424260000c00,
  0x2b466228264920000c00, 0x13baa20000c00, 0x2868464084245c0000c00, 0x1409c40000c00,
  0x1419c40000c00, 0x1459c30000c00, 0x155842b155642a15fe41d0000c00, 0x156042b155e42a160041d0000c00,
  0x156842b156642a160241d0000c00]

/-- The rows of actions 3264 to 3327. -/
def rows51 : Array Nat := #[
  0x157042b156e42a160441d0000c00, 0x160645906c644e0000c00, 0x6d044f148a44e0000c00,
  0x6d444f148c44e0000c00, 0x16caa30000c00, 0x17c9c40000c00, 0x17d9c40000c00,
  0x154859071944e015484e0000c00, 0x156a9e0000c00, 0x18aa8c0000c00, 0x18c84f14c944e018c84e0000c00,
  0x191aa70000c00, 0x19a9c40000c00, 0x19c9c40000c00, 0x1af9c40000c00, 0x1b09c40000c00,
  0x1b69c40000c00, 0x1b99c40000c00, 0x1bf9c40000c00, 0x1c19c40000c00, 0x1c39c40000c00,
  0xa4aa80000c00, 0x11aaa80000c00, 0x15baa80000c00, 0x9aa8c0000c00, 0xa2a8c0000c00, 0xa3a8c0000c00,
  0x115a8c0000c00, 0x158a8c0000c00, 0x1ba644f0fb244e0000c00, 0xc6c44f11e044e0000c00,
  0x1ce446401a644e0000c00, 0x1ba8459020e44e0000c00, 0xc72459021844e0000c00,
  0x26744cf221644e0000c00, 0x91642b091442a02d841d0000c00, 0xcb644f11e044e0000c00,
  0x1bac44f0fb244e0000c00, 0x1bae44f0fb244e0000c00, 0xcb844f11e044e0000c00,
  0x1ce646401a844e0000c00, 0xcbc459021844e0000c00, 0x1bb0459020e44e0000c00,
  0x28d645b02164110000c00, 0x26764cf221c44e0000c00, 0xa7e4810000c00, 0xb6c464021844e0000c00,
  0xce84cf27a845c2aae45b0000c00, 0x206649e2b6645b0000c00, 0x206649e2b6845b0000c00,
  0xed2459070244e0000c00, 0x8a44de07da43807d84370000c00, 0x207844f149644e0000c00,
  0xb6e464021844e0000c00, 0xef04cf076244e0000c00, 0xf04459070444e0000c00, 0x209044f149844e0000c00,
  0x209444f149a44e0000c00, 0x289844f11e044e0000c00, 0x1bd046401aa44e0000c00,
  0x289a44f11e044e0000c00, 0x289c44f11e044e0000c00, 0x1bd246401ac44e0000c00,
  0x292c45b02244110000c00]

/-- The rows of actions 3328 to 3391. -/
def rows52 : Array Nat := #[
  0x75a464021844e0000c00, 0x20ba4cf27a845c2aae45b0000c00, 0x180e459070844e0000c00,
  0x8a84de07f843807f64370000c00, 0x75c464021844e0000c00, 0xba64cf076844e0000c00,
  0x161842b161642a165241d0000c00, 0x162042b161e42a165441d0000c00, 0x162842b162642a165641d0000c00,
  0x163042b162e42a165841d0000c00, 0x181e459070a44e0000c00, 0x294845b02204110000c00,
  0x170e464021844e0000c00, 0x20d64cf27a845c2aae45b0000c00, 0xbf4459070e44e0000c00,
  0x8aa4de081643808144370000c00, 0x1710464021844e0000c00, 0x15c44cf076e44e0000c00,
  0xc24459071044e0000c00, 0x295845b02284110000c00, 0x1318464021844e0000c00,
  0x1996459071444e0000c00, 0x8ac4de0830438082e4370000c00, 0x131c464021844e0000c00,
  0x17a44cf077444e0000c00, 0x171442b171242a165e41d0000c00, 0x171c42b171a42a166041d0000c00,
  0x172442b172242a166241d0000c00, 0x172c42b172a42a166441d0000c00, 0x19a8459071644e0000c00,
  0x1846464021844e0000c00, 0x185a464021844e0000c00, 0x26804cf077844e0000c00,
  0x1a44464021844e0000c00, 0x1a46464021844e0000c00, 0x19a44cf077c44e0000c00,
  0x2974413020a4110000c00, 0x273c42a17c64070000c00, 0x1d0642a0000c00, 0x6e4c7006e8140000c00,
  0x27e845b02264110000c00, 0x8ae4de0850438084e4370000c00, 0x27e845b022a4110000c00,
  0x86c43b22b64240000c00, 0x2ae66203ee43b0000c00, 0x8b04de087243808704370000c00,
  0x29a6413020c4110000c00, 0x9a4c7006e8140000c00, 0x2586f047843b002583b0000c00, 0x2944110000c00,
  0x244070000c00, 0x61849e0000c00, 0x62049e0000c00, 0x19c4110000c00, 0x29f64341d8e42a0000c00,
  0x22c269a0000c00, 0x21a9a219444e0000c00, 0x1c604070000c00, 0x2764110000c00, 0x63a49e0000c00,
  0x63c49e0000c00, 0x63e49e0000c00, 0x64049e0000c00, 0xb284070000c00]

/-- The rows of actions 3392 to 3455. -/
def rows53 : Array Nat := #[
  0x2c4070000c00, 0x147e4070000c00, 0xa0042b09fe42a0000c00, 0xa0442b0a0242a0000c00,
  0x2164110000c00, 0x4ea840000c00, 0x64c492064e4120000c00, 0x2a324341db442a0000c00, 0x5e8710000c00,
  0x5f8710000c00, 0x678710000c00, 0xffa4070000c00, 0x65c49e0000c00, 0x65649e0000c00,
  0x78845c0000c00, 0x75a760000c00, 0x2ca4110000c00, 0x7e86f0000c00, 0xb3a4070000c00,
  0x9ba790000c00, 0x1c886310000c00, 0x2224110000c00, 0xbaa840000c00, 0xbba840000c00,
  0x10324cf27a845c0000c00, 0x10344cf2ab045b0000c00, 0xbca840000c00, 0x68049206824120000c00,
  0x68449e0000c00, 0x231642a0000c00, 0xb404070000c00, 0xcc8710000c00, 0xcd8710000c00,
  0x68c49e0000c00, 0x68e49e0000c00, 0xd18710000c00, 0x69249206944120000c00, 0xd389e0000c00,
  0xe1a760000c00, 0xe3a760000c00, 0xe4a760000c00, 0xb344070000c00, 0x84245c0000c00,
  0x15a042b159e42a0000c00, 0x15a642b15a442a0000c00, 0x15aa42b15a842a0000c00, 0x284070000c00,
  0x106a790000c00, 0x111a790000c00, 0x11ba790000c00, 0xb444070000c00, 0x9c642b09c442a0000c00,
  0x12d8710000c00, 0x12e8710000c00, 0x384070000c00, 0x1308710000c00, 0x6be49206c04120000c00,
  0x1328710000c00, 0x1338710000c00, 0x1358710000c00, 0x1989e0000c00, 0x2ba6620000c00,
  0x13da760000c00, 0x1a44110000c00]

/-- The rows of actions 3456 to 3519. -/
def rows54 : Array Nat := #[
  0x155842b155642a0000c00, 0x155c42b155a42a0000c00, 0x156442b156242a0000c00,
  0x156c42b156a42a0000c00, 0x10986f0000c00, 0x10a86f0000c00, 0x151a790000c00, 0x1618710000c00,
  0x16b8710000c00, 0x16e8710000c00, 0x1708710000c00, 0x1718710000c00, 0x5a89e0000c00,
  0x2b846e02b646d0000c00, 0x7aa46d07c845c0000c00, 0x15286f0000c00, 0x15486f0000c00,
  0x18c8710000c00, 0x1908710000c00, 0x1a78710000c00, 0x1b38710000c00, 0x1bb8710000c00,
  0x1c08710000c00, 0x6589e0000c00, 0xc589e0000c00, 0xca89e0000c00, 0x1a24110000c00, 0x304070000c00,
  0x14924070000c00, 0x91242b091042a0000c00, 0x91642b091442a0000c00, 0x2204110000c00,
  0x203449220364120000c00, 0x3a4070000c00, 0x2264110000c00, 0xce84cf27a845c0000c00,
  0xcea4cf2ab045b0000c00, 0x2058492205a4120000c00, 0x205c49e0000c00, 0xeda42b0ed842a0000c00,
  0xee442b0ee242a0000c00, 0xee842b0ee642a0000c00, 0x91e42b091c42a0000c00, 0xef642b0ef442a0000c00,
  0xefa42b0ef842a0000c00, 0xefe42b0efc42a0000c00, 0xf0242b0f0042a0000c00, 0x20ba4cf27a845c0000c00,
  0x20bc4cf2ab045b0000c00, 0x170042b16fe42a0000c00, 0x170642b170442a0000c00,
  0x170a42b170842a0000c00, 0x9d442b09d242a0000c00, 0x161842b161642a0000c00,
  0x161c42b161a42a0000c00, 0x162442b162242a0000c00, 0x162c42b162a42a0000c00,
  0x20d64cf27a845c0000c00, 0x20d84cf2ab045b0000c00, 0xbfc42b0bfa42a0000c00, 0xc0642b0c0442a0000c00,
  0xc0a42b0c0842a0000c00, 0xa5442b0a5242a0000c00, 0xc1642b0c1442a0000c00]

/-- The rows of actions 3520 to 3583. -/
def rows55 : Array Nat := #[
  0xc1a42b0c1842a0000c00, 0xc1e42b0c1c42a0000c00, 0xc2242b0c2042a0000c00, 0x185042b184e42a0000c00,
  0x185442b185242a0000c00, 0x185842b185642a0000c00, 0xa4e42b0a4c42a0000c00,
  0x171442b171242a0000c00, 0x171842b171642a0000c00, 0x172042b171e42a0000c00,
  0x172842b172642a0000c00, 0xa7a42b0a7842a0000c00, 0x9da42b09d842a0000c00, 0x26b442a0000c00,
  0x2c42434213642a0000c00, 0x2c4c434213e42a0000c00, 0x29e66a90000c00, 0x33646d0000c00,
  0x29ec41e0000c00, 0x1a8442a0000c00, 0x277242a0000c00, 0x1c020000c00, 0x29e4400000c00,
  0x33443b0000c00, 0x29f04060000c00, 0x29f442a0000c00, 0x18ba42a0000c00, 0x277e4200000c00,
  0x35c43b0000c00, 0x2a024a00000c00, 0xfba6aa0000c00, 0x21a9a0000c00, 0x279242a0000c00,
  0x9fc4640000c00, 0x27964140000c00, 0x358070000c00, 0x2a24400000c00, 0x2a44400000c00,
  0x2a64400000c00, 0xfba6ab0000c00, 0x36443b0000c00, 0xfd26ac0000c00, 0x1a9a42a0000c00,
  0x229e42a0000c00, 0x18cc42a0000c00, 0x2a2e41e0000c00, 0x27be42a0000c00, 0x230844f0000c00,
  0x27c043b0000c00, 0x1db642a0000c00, 0x18d242a0000c00, 0x79843b0000c00, 0x1d042a0000c00,
  0x1d242a0000c00, 0x36c43b0000c00, 0x2a3442a0000c00, 0x2a3a44f0000c00, 0x66a9a0000c00,
  0x23124a00000c00, 0x24245c0000c00, 0x26a4120000c00, 0xa064640000c00, 0x2a464470000c00,
  0x15de4500000c00]

/-- The rows of actions 3584 to 3647. -/
def rows56 : Array Nat := #[
  0x21c04210000c00, 0x16ca42a0000c00, 0x15bc6ad0000c00, 0x2a4e45b0000c00, 0x71c4400000c00,
  0x8a8070000c00, 0x21c644f0000c00, 0xa084640000c00, 0x98242a0000c00, 0x2a5242a0000c00,
  0xa0a4590000c00, 0x1de844f0000c00, 0x10324cf0000c00, 0x18ee42a0000c00, 0xbda9a0000c00,
  0x1dea42a0000c00, 0xcfa9a0000c00, 0x2a3c6a50000c00, 0x233c4a00000c00, 0xd2a9a0000c00,
  0x23404110000c00, 0xd4a9a0000c00, 0x1445c0000c00, 0x27a4120000c00, 0x1a1a4590000c00,
  0x154e41d0000c00, 0x21d04210000c00, 0x7ae4400000c00, 0x159c42a0000c00, 0x15a242a0000c00,
  0x71e4400000c00, 0x7b245c0000c00, 0xa0e4590000c00, 0x7a65320000c00, 0x134a9a0000c00,
  0x1845c0000c00, 0x7204640000c00, 0x7224640000c00, 0x524640000c00, 0x27e4120000c00,
  0x1a1e4590000c00, 0x7be4400000c00, 0x7c04400000c00, 0x172a9a0000c00, 0x238e4640000c00,
  0x7244640000c00, 0x584640000c00, 0x5a4640000c00, 0x287e4640000c00, 0x7c645c0000c00,
  0x1a2a4590000c00, 0x7ca4400000c00, 0x7284640000c00, 0x72c4640000c00, 0x72e4640000c00,
  0x5e4640000c00, 0x15724590000c00, 0x15744590000c00, 0x15764590000c00, 0x15784590000c00,
  0x157a4590000c00, 0x157c4590000c00, 0x157e4590000c00, 0x15804590000c00]

/-- The rows of actions 3648 to 3711. -/
def rows57 : Array Nat := #[
  0x15824590000c00, 0x15844590000c00, 0x37e46d0000c00, 0x2c04400000c00, 0x3ee43b0000c00,
  0xc6e6aa0000c00, 0x7304640000c00, 0x2c24400000c00, 0x2c44400000c00, 0x2c64400000c00,
  0xc6e6ab0000c00, 0x39e43b0000c00, 0xdc86ac0000c00, 0x1a3442a0000c00, 0x1a3642a0000c00,
  0x7324640000c00, 0xeac4500000c00, 0xeb642a0000c00, 0xdca6ad0000c00, 0x7344400000c00,
  0x14d04640000c00, 0x143842a0000c00, 0x9184590000c00, 0x205444f0000c00, 0xce84cf0000c00,
  0x7e04400000c00, 0xed642a0000c00, 0xedc42a0000c00, 0x7364400000c00, 0x9204590000c00,
  0x7de5320000c00, 0x7e44400000c00, 0x7e64400000c00, 0x7e84400000c00, 0x93c4640000c00,
  0x12246ac0000c00, 0x60442a0000c00, 0x60642a0000c00, 0x93e4640000c00, 0x17f44500000c00,
  0x17fe42a0000c00, 0x17966ad0000c00, 0x7384400000c00, 0x20ba4cf0000c00, 0x7fe4400000c00,
  0x16fc42a0000c00, 0x170242a0000c00, 0x73a4400000c00, 0x7fc5320000c00, 0x8024400000c00,
  0x8044400000c00, 0x8064400000c00, 0x16324590000c00, 0x16344590000c00, 0x16364590000c00,
  0x16384590000c00, 0x163a4590000c00, 0x163c4590000c00, 0x163e4590000c00, 0x16404590000c00,
  0x16424590000c00, 0x16444590000c00, 0x6084640000c00, 0x10fc6ac0000c00]

/-- The rows of actions 3712 to 3775. -/
def rows58 : Array Nat := #[
  0xd1e42a0000c00, 0xd2042a0000c00, 0x60a4640000c00, 0xbd04500000c00, 0xbda42a0000c00,
  0xb7e6ad0000c00, 0x73c4400000c00, 0x20d64cf0000c00, 0x8184400000c00, 0xbf842a0000c00,
  0xbfe42a0000c00, 0x73e4400000c00, 0x8645320000c00, 0x81c4400000c00, 0x81e4400000c00,
  0x8204400000c00, 0x13b66ac0000c00, 0xd2442a0000c00, 0xd2642a0000c00, 0x197e4500000c00,
  0x198642a0000c00, 0x189a6ad0000c00, 0x7404400000c00, 0x8324400000c00, 0x20e242a0000c00,
  0x20e442a0000c00, 0x7424400000c00, 0x8685320000c00, 0x8364400000c00, 0x8384400000c00,
  0x83a4400000c00, 0x172e4590000c00, 0x17304590000c00, 0x17324590000c00, 0x17344590000c00,
  0x17364590000c00, 0x17384590000c00, 0x173a4590000c00, 0x173c4590000c00, 0x173e4590000c00,
  0x17404590000c00, 0x1bd842a0000c00, 0x1bda42a0000c00, 0x185c42a0000c00, 0x185e42a0000c00,
  0x2aac6a90000c00, 0x1be242a0000c00, 0x28a642a0000c00, 0x19d242a0000c00, 0x28b242a0000c00,
  0x19de42a0000c00, 0x28c842a0000c00, 0x19e242a0000c00, 0x2aca45b0000c00, 0x7464400000c00,
  0x19ea42a0000c00, 0x8564400000c00, 0x7484400000c00, 0x8545320000c00, 0x724640000c00,
  0x85a4400000c00, 0x85c4400000c00, 0x784640000c00, 0x7a4640000c00]

/-- The rows of actions 3776 to 3839. -/
def rows59 : Array Nat := #[
  0x85e4400000c00, 0x7e4640000c00, 0x3f046d0000c00, 0x2de4400000c00, 0x37c43b0000c00,
  0x2e04400000c00, 0x2e24400000c00, 0x2e44400000c00, 0x40c43b0000c00, 0x2ada6a90000c00,
  0x2af045b0000c00, 0x44a46d0000c00, 0x2f64400000c00, 0x2f84400000c00, 0x2fa4400000c00,
  0x2fc4400000c00, 0x46643b0000c00, 0x2b126a90000c00, 0x2b2845b0000c00, 0x47a46d0000c00,
  0x3024400000c00, 0x3044400000c00, 0x3064400000c00, 0x3084400000c00, 0x49643b0000c00,
  0x2b346a90000c00, 0x2b4645b0000c00, 0x4aa46d0000c00, 0x30e4400000c00, 0x3104400000c00,
  0x3124400000c00, 0x3144400000c00, 0x4c643b0000c00, 0x2b6c45b0000c00, 0x3c046d0000c00,
  0x2b7841e0000c00, 0x2d04400000c00, 0x3be43b0000c00, 0x2b7a4060000c00, 0x2d24400000c00,
  0x2d44400000c00, 0x2d64400000c00, 0x3e043b0000c00, 0x273c42a0000c00, 0x2b8241e0000c00,
  0x297a43b0000c00, 0x86e43b0000c00, 0x226a4210000c00, 0x1d6442a0000c00, 0x74c4400000c00,
  0x2824120000c00, 0x8784400000c00, 0x74e4400000c00, 0x87c45c0000c00, 0x8765320000c00,
  0x2864120000c00, 0x87e4400000c00, 0x8804400000c00, 0x8844400000c00, 0x4e246d0000c00,
  0x31a4400000c00, 0x44843b0000c00, 0x31c4400000c00, 0x31e4400000c00]

/-- The rows of actions 3840 to 3870. -/
def rows60 : Array Nat := #[
  0x3204400000c00, 0x4fe43b0000c00, 0x9e4640000c00, 0xa44640000c00, 0xa64640000c00, 0xaa4640000c00,
  0x4e043b0000c00, 0x41e46d0000c00, 0x2ea4400000c00, 0x41c43b0000c00, 0x2ec4400000c00,
  0x2ee4400000c00, 0x2f04400000c00, 0x43c43b0000c00, 0x22744210000c00, 0x28a4120000c00,
  0x28e4120000c00, 0x47843b0000c00, 0x22784210000c00, 0x4a843b0000c00, 0x227c4210000c00,
  0x2bee42a0000c00, 0x299a4200000c00, 0x216242a0000c00, 0x2704120000c00, 0x22804210000c00,
  0x1c3e42a0000c00, 0x2bfe42a0000c00, 0x216842a0000c00, 0x2744120000c00, 0x228e4210000c00]

/-- The rows of actions by their numbers. -/
def rows : Array (Array Nat) := #[
  rows0, rows1, rows2, rows3, rows4, rows5, rows6, rows7, rows8, rows9, rows10, rows11, rows12,
  rows13, rows14, rows15, rows16, rows17, rows18, rows19, rows20, rows21, rows22, rows23, rows24,
  rows25, rows26, rows27, rows28, rows29, rows30, rows31, rows32, rows33, rows34, rows35, rows36,
  rows37, rows38, rows39, rows40, rows41, rows42, rows43, rows44, rows45, rows46, rows47, rows48,
  rows49, rows50, rows51, rows52, rows53, rows54, rows55, rows56, rows57, rows58, rows59, rows60]

end UiHarness.Syntax.Automaton.Markup
